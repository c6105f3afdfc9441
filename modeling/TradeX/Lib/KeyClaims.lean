import TradeX.Lib.Dict

/-! Keys that several elements claim. The elements are filed one by one under all their keys, and one that meets
another under a key takes it over or leaves it, by a relation that need not be an order. Who holds a key after all
of them is the same for every order of the elements exactly where one of them takes it over from every other and
gives it to none. -/

namespace TradeX.Lib.KeyClaims

variable {α : Type u} {κ : Type v} (takes : α → α → Bool)

/-- One more claim to a key. -/
def contest : Option α → α → Option α
  | none, a => some a
  | some held, a => if takes held a then some a else some held

/-- Who holds a key after the claims to it. -/
def owner (xs : List α) : Option α := xs.foldl (contest takes) none

/-- A claimant that wins against every other. -/
structure Dominant (xs : List α) (w : α) : Prop where
  mem : w ∈ xs
  takes_over : ∀ x ∈ xs, x ≠ w → takes x w = true
  keeps : ∀ x ∈ xs, x ≠ w → takes w x = false

variable {takes} {xs ys : List α} {w x : α} {held : Option α}

theorem contest_eq (takes : α → α → Bool) (held : Option α) (a : α) :
    contest takes held a = some a ∨ contest takes held a = held := by
  cases held with
  | none => exact .inl rfl
  | some h =>
    rcases Bool.eq_false_or_eq_true (takes h a) with wins | loses
    · exact .inl (if_pos wins)
    · exact .inr (if_neg (Bool.eq_false_iff.mp loses))

theorem contest_ne_none (held : Option α) (a : α) : contest takes held a ≠ none := by
  cases held with
  | none => exact Option.some_ne_none a
  | some h =>
    rcases contest_eq takes (some h) a with new | same
    · rw [new]
      exact Option.some_ne_none a
    · rw [same]
      exact Option.some_ne_none h

/-- A second claim of the same element changes nothing. -/
theorem contest_again (held : Option α) (a : α) : contest takes (contest takes held a) a = contest takes held a := by
  rcases contest_eq takes held a with new | same
  · rw [new]
    exact ite_self _
  · rw [same, same]

/-- The holder is one of the claimants. -/
theorem foldl_contest_mem (ran : xs.foldl (contest takes) held = some w) : held = some w ∨ w ∈ xs := by
  induction xs generalizing held with
  | nil => exact .inl ran
  | cons a xs ih =>
    rcases ih ran with now | later
    · rcases contest_eq takes held a with new | same
      · exact .inr (Option.some.inj (new.symm.trans now) ▸ List.mem_cons_self)
      · exact .inl (same.symm.trans now)
    · exact .inr (List.mem_cons_of_mem _ later)

theorem owner_mem (ran : owner takes xs = some w) : w ∈ xs := (foldl_contest_mem ran).resolve_left nofun

theorem foldl_contest_ne_none (some_ : held ≠ none) : xs.foldl (contest takes) held ≠ none := by
  induction xs generalizing held with
  | nil => exact some_
  | cons a xs ih => exact ih (contest_ne_none held a)

theorem owner_eq_none : owner takes xs = none ↔ xs = [] := by
  cases xs with
  | nil => exact iff_of_true rfl rfl
  | cons a xs =>
    have some_ : xs.foldl (contest takes) (contest takes none a) ≠ none :=
      foldl_contest_ne_none (contest_ne_none none a)
    exact iff_of_false some_ (List.cons_ne_nil a xs)

/-- One that wins against all that are to come holds the key in the end, from the moment it claims it. -/
theorem foldl_contest_dominant (wins : ∀ x ∈ xs, x ≠ w → takes x w = true)
    (keeps : ∀ x ∈ xs, x ≠ w → takes w x = false)
    (now : held = some w ∨ w ∈ xs ∧ ∀ h ∈ held, h ≠ w → takes h w = true) :
    xs.foldl (contest takes) held = some w := by
  induction xs generalizing held with
  | nil => exact now.resolve_right fun later => nomatch later.1
  | cons a xs ih =>
    refine ih (fun x member => wins x (List.mem_cons_of_mem _ member))
      (fun x member => keeps x (List.mem_cons_of_mem _ member)) ?_
    rcases eq_or_ne a w with rfl | other
    · -- `w` itself claims the key
      left
      rcases now with rfl | ⟨-, waits⟩
      · exact ite_self _
      · cases held with
        | none => rfl
        | some h =>
          rcases eq_or_ne h a with rfl | differs
          · exact ite_self _
          · exact if_pos (waits h rfl differs)
    · rcases now with rfl | ⟨later, waits⟩
      · left
        exact if_neg (Bool.eq_false_iff.mp (keeps a List.mem_cons_self other))
      · right
        refine ⟨(List.mem_cons.mp later).resolve_left other.symm, ?_⟩
        intro h holds differs
        rcases contest_eq takes held a with new | same
        · obtain rfl : a = h := Option.some.inj (new.symm.trans holds)
          exact wins a List.mem_cons_self other
        · exact waits h (same.symm.trans holds) differs

theorem Dominant.owner (dominant : Dominant takes xs w) : owner takes xs = some w :=
  foldl_contest_dominant dominant.takes_over dominant.keeps (.inr ⟨dominant.mem, nofun⟩)

theorem Dominant.perm (dominant : Dominant takes xs w) (order : ys.Perm xs) : Dominant takes ys w where
  mem := order.mem_iff.mpr dominant.mem
  takes_over x member := dominant.takes_over x (order.mem_iff.mp member)
  keeps x member := dominant.keeps x (order.mem_iff.mp member)

/-- One that has no claim left does not hold the key again. -/
theorem foldl_contest_gone (absent : w ∉ xs) (other : held ≠ some w) : xs.foldl (contest takes) held ≠ some w :=
  fun ran => (foldl_contest_mem ran).elim other absent

/-- Of distinct claimants, the holder in every order is the one that wins against every other: each other one is put
in front of it, and behind it. -/
theorem owner_perm_iff (distinct : xs.Nodup) :
    (∀ ys, ys.Perm xs → owner takes ys = some w) ↔ Dominant takes xs w := by
  constructor
  · intro always
    have mem := owner_mem (always xs (.refl xs))
    have front : ∀ x ∈ xs, x ≠ w → ∃ rest, (x :: w :: rest).Perm xs ∧ w ∉ rest := by
      intro x member other
      obtain ⟨first, second, rfl⟩ := List.append_of_mem mem
      have elsewhere : x ∈ first ++ second := by
        rcases List.mem_append.mp member with inside | inside
        · exact List.mem_append_left _ inside
        · exact List.mem_append_right _ ((List.mem_cons.mp inside).resolve_left other)
      obtain ⟨third, fourth, parted⟩ := List.append_of_mem elsewhere
      have order : (x :: w :: (third ++ fourth)).Perm (first ++ w :: second) := by
        refine .trans ?_ List.perm_middle.symm
        rw [parted]
        exact (List.Perm.swap _ _ _).trans (List.perm_middle.symm.cons w)
      have apart := order.nodup_iff.mpr distinct
      rw [List.nodup_cons, List.nodup_cons] at apart
      exact ⟨_, order, apart.2.1⟩
    refine ⟨mem, fun x member other => ?_, fun x member other => ?_⟩
    · obtain ⟨rest, order, absent⟩ := front x member other
      by_contra loses
      have first : contest takes (contest takes none x) w ≠ some w := by
        rw [show contest takes (contest takes none x) w = some x from if_neg loses]
        exact fun same => other (Option.some.inj same)
      exact foldl_contest_gone absent first (always (x :: w :: rest) order)
    · obtain ⟨rest, order, absent⟩ := front x member other
      rw [Bool.eq_false_iff]
      intro wins
      have second : contest takes (contest takes none w) x ≠ some w := by
        rw [show contest takes (contest takes none w) x = some x from if_pos wins]
        exact fun same => other (Option.some.inj same)
      exact foldl_contest_gone absent second (always (w :: x :: rest) ((List.Perm.swap _ _ _).trans order))
  · intro dominant ys order
    exact (dominant.perm order).owner

variable [DecidableEq κ]

variable (takes) in
/-- One element filed under all its keys. -/
def file (keys : α → List κ) (filed : Dict κ α) (a : α) : Dict κ α :=
  (keys a).foldl (fun filed k =>
    match filed.get k with
    | none => filed.set k a
    | some held => if takes held a then filed.set k a else filed) filed

variable (takes) in
def files (keys : α → List κ) (xs : List α) : Dict κ α := xs.foldl (file takes keys) ∅

/-- The elements with the key, in their order. -/
def claimants (keys : α → List κ) (k : κ) (xs : List α) : List α := xs.filter fun a => k ∈ keys a

variable {keys : α → List κ} {filed : Dict κ α} {k : κ} {a : α}

theorem mem_claimants : a ∈ claimants keys k xs ↔ a ∈ xs ∧ k ∈ keys a := by
  rw [claimants, List.mem_filter, decide_eq_true_eq]

theorem claimants_perm (order : ys.Perm xs) : (claimants keys k ys).Perm (claimants keys k xs) := order.filter _

/-- An element changes the keys that it claims, each by one contest. -/
theorem get_file (filed : Dict κ α) (a : α) :
    (file takes keys filed a).get k = if k ∈ keys a then contest takes (filed.get k) a else filed.get k := by
  unfold file
  generalize keys a = own
  induction own generalizing filed with
  | nil => rfl
  | cons key own ih =>
    rw [List.foldl_cons, ih]
    have one : (match filed.get key with
        | none => filed.set key a
        | some held => if takes held a then filed.set key a else filed).get k =
          if k = key then contest takes (filed.get k) a else filed.get k := by
      split
      · next absent =>
        rw [Dict.get_set]
        split
        · next same => rw [same, absent, contest]
        · rfl
      · next held present =>
        by_cases same : k = key
        · subst same
          rw [if_pos rfl, present, contest]
          split
          · exact Dict.get_set_self ..
          · exact present
        · rw [if_neg same]
          split
          · exact Dict.get_set_other _ _ _ _ same
          · rfl
    rw [one]
    by_cases same : k = key
    · rw [if_pos same, if_pos (List.mem_cons.mpr (.inl same)), contest_again, ite_self]
    · have rest : (k ∈ key :: own) ↔ k ∈ own := ⟨fun member => (List.mem_cons.mp member).resolve_left same,
        List.mem_cons_of_mem _⟩
      simp only [if_neg same, rest]

/-- Each key is held by the owner among its claimants. -/
theorem get_files : (files takes keys xs).get k = owner takes (claimants keys k xs) := by
  have from_ : ∀ filed : Dict κ α,
      (xs.foldl (file takes keys) filed).get k = (claimants keys k xs).foldl (contest takes) (filed.get k) := by
    induction xs with
    | nil => exact fun _ => rfl
    | cons a xs ih =>
      intro filed
      rw [List.foldl_cons, ih, get_file, claimants, claimants]
      by_cases member : k ∈ keys a
      · rw [if_pos member, List.filter_cons, if_pos (decide_eq_true member), List.foldl_cons]
      · rw [if_neg member, List.filter_cons, if_neg (by rwa [decide_eq_true_eq])]
  exact from_ ∅

/-- An order of the claimants of a key is that of an order of all elements. -/
theorem exists_perm_claimants (order : ys.Perm (claimants keys k xs)) :
    ∃ zs, zs.Perm xs ∧ claimants keys k zs = ys := by
  refine ⟨ys ++ xs.filter (fun a => !decide (k ∈ keys a)), ?_, ?_⟩
  · exact (order.append_right _).trans (List.filter_append_perm _ xs)
  · rw [claimants, List.filter_append, List.filter_filter, List.filter_eq_self.mpr]
    · rw [List.filter_eq_nil_iff.mpr, List.append_nil]
      intro a _ both
      simp only [Bool.and_not_self, Bool.false_eq_true] at both
    · intro a member
      exact decide_eq_true (mem_claimants.mp (order.mem_iff.mp member)).2

/-- One element holds the key in every order exactly where it is dominant among the claimants. -/
theorem settled_iff (distinct : xs.Nodup) :
    (∀ ys, ys.Perm xs → (files takes keys ys).get k = some w) ↔ Dominant takes (claimants keys k xs) w := by
  rw [← owner_perm_iff (show (claimants keys k xs).Nodup from distinct.filter _)]
  constructor
  · intro always ys order
    obtain ⟨zs, whole, rfl⟩ := exists_perm_claimants order
    rw [← get_files]
    exact always zs whole
  · intro always ys order
    rw [get_files]
    exact always _ (claimants_perm order)

/-- A key is free where nothing claims it. -/
theorem get_files_eq_none : (files takes keys xs).get k = none ↔ ∀ a ∈ xs, k ∉ keys a := by
  rw [get_files, owner_eq_none, claimants, List.filter_eq_nil_iff]
  simp only [decide_eq_true_eq]

/-- The key is held by the same element in every order exactly where one claimant is dominant, or there is none. -/
theorem unordered_iff (distinct : xs.Nodup) :
    (∀ ys, ys.Perm xs → (files takes keys ys).get k = (files takes keys xs).get k) ↔
      ∀ a ∈ xs, k ∈ keys a → ∃ w, Dominant takes (claimants keys k xs) w := by
  constructor
  · intro same a member claim
    cases holder : (files takes keys xs).get k with
    | none => exact absurd claim (get_files_eq_none.mp holder a member)
    | some w => exact ⟨w, (settled_iff distinct).mp fun ys order => (same ys order).trans holder⟩
  · intro dominated ys order
    by_cases claimed : ∃ a ∈ xs, k ∈ keys a
    · obtain ⟨a, member, claim⟩ := claimed
      obtain ⟨w, dominant⟩ := dominated a member claim
      have settled : ∀ ys, ys.Perm xs → (files takes keys ys).get k = some w := (settled_iff distinct).mpr dominant
      rw [settled ys order, settled xs (.refl xs)]
    · have free : ∀ a ∈ xs, k ∉ keys a := fun a member claim => claimed ⟨a, member, claim⟩
      rw [get_files_eq_none.mpr free, get_files_eq_none.mpr fun a member => free a (order.mem_iff.mp member)]

theorem get_files_mem (found : (files takes keys xs).get k = some w) : w ∈ xs ∧ k ∈ keys w :=
  mem_claimants.mp (owner_mem (get_files.symm.trans found))

/-- Where the last claimant holds a key, its holder is the same in every order exactly where no two claim it. -/
theorem unordered_last_iff (distinct : xs.Nodup) :
    (∀ ys, ys.Perm xs → (files (fun _ _ => true) keys ys).get k = (files (fun _ _ => true) keys xs).get k) ↔
      ∀ a ∈ xs, ∀ b ∈ xs, k ∈ keys a → k ∈ keys b → a = b := by
  rw [unordered_iff distinct]
  constructor
  · intro dominated a first b second ofFirst ofSecond
    obtain ⟨w, dominant⟩ := dominated a first ofFirst
    have single : ∀ x ∈ xs, k ∈ keys x → x = w := by
      intro x member claim
      by_contra other
      cases dominant.keeps x (mem_claimants.mpr ⟨member, claim⟩) other
    exact (single a first ofFirst).trans (single b second ofSecond).symm
  · intro once a member claim
    refine ⟨a, mem_claimants.mpr ⟨member, claim⟩, fun _ _ _ => rfl, fun x claims other => ?_⟩
    exact absurd (once x (mem_claimants.mp claims).1 a member (mem_claimants.mp claims).2 claim) other

end TradeX.Lib.KeyClaims
