import TradeX.V1.DhanSymbolResolver
import TradeX.V1.UpstoxInstrumentResolver

/-! Both resolvers of the brokers. They generate the same aliases and differ in who holds one that several records
claim: Dhan has a preference between some kinds of instruments, with Upstox the last record holds it. -/

namespace TradeX.V1.SymbolResolvers

open Lib
open Dhan (DhanInstrument Exchange)
open Upstox (UpstoxInstrumentDefinition)

variable {table : CharTable} {today : String} {existing inst first second : DhanInstrument}
  {instruments : List DhanInstrument} {key : String × Exchange}

/-- No alias passes between two options, nor between a future and an equity. -/
theorem takesOver_incomparable (options : existing.isOption = inst.isOption)
    (kinds : existing.isOption = true ∨ existing.isFuture ≠ inst.isFuture) :
    Dhan.takesOver today existing inst = false := by
  have both : (existing.isOption && !inst.isOption) = false := by
    rw [options, Bool.and_not_self]
  have futures : (existing.isFuture && inst.isFuture) = false := by
    rcases kinds with option | differ
    · have kind : existing.instrumentType = .OPTION := of_decide_eq_true option
      simp only [DhanInstrument.isFuture, kind]
      rfl
    · revert differ
      cases existing.isFuture <;> cases inst.isFuture <;> decide
  rw [Dhan.takesOver, both, futures]
  rcases kinds with option | differ
  · simp only [option, Bool.not_true, Bool.false_and, Bool.false_eq_true, if_false]
  · revert differ
    cases existing.isFuture <;> cases inst.isFuture <;> simp

/-- Where two instruments share an alias that passes neither way, a third one that takes over from both settles it. -/
theorem settled_by_third (settled : Dhan.Undisputed table today instruments) (inFirst : first ∈ instruments)
    (inSecond : second ∈ instruments) (ofFirst : key ∈ Dhan.aliasKeys table first)
    (ofSecond : key ∈ Dhan.aliasKeys table second) (different : first ≠ second)
    (there : Dhan.takesOver today first second = false) (back : Dhan.takesOver today second first = false) :
    ∃ holder ∈ instruments, key ∈ Dhan.aliasKeys table holder ∧ Dhan.takesOver today first holder = true ∧
      Dhan.takesOver today second holder = true := by
  obtain ⟨holder, dominant⟩ := settled.every first inFirst key ofFirst
  obtain ⟨inside, claim⟩ := KeyClaims.mem_claimants.mp dominant.mem
  have notFirst : first ≠ holder := by
    rintro rfl
    have wins := dominant.takes_over second (KeyClaims.mem_claimants.mpr ⟨inSecond, ofSecond⟩) different.symm
    rw [back] at wins
    cases wins
  have notSecond : second ≠ holder := by
    rintro rfl
    have wins := dominant.takes_over first (KeyClaims.mem_claimants.mpr ⟨inFirst, ofFirst⟩) different
    rw [there] at wins
    cases wins
  exact ⟨holder, inside, claim, dominant.takes_over first (KeyClaims.mem_claimants.mpr ⟨inFirst, ofFirst⟩) notFirst,
    dominant.takes_over second (KeyClaims.mem_claimants.mpr ⟨inSecond, ofSecond⟩) notSecond⟩

/-- Aliases that no two instruments share are undisputed. -/
theorem undisputed_of_once (valid : ∀ inst ∈ instruments, inst.Valid table)
    (once : ∀ first ∈ instruments, ∀ second ∈ instruments, ∀ key ∈ Dhan.aliasKeys table first,
      key ∈ Dhan.aliasKeys table second → first = second) : Dhan.Undisputed table today instruments := by
  have alone : ∀ inst ∈ instruments, ∀ key ∈ Dhan.aliasKeys table inst, KeyClaims.Dominant (Dhan.takesOver today)
      (KeyClaims.claimants (Dhan.aliasKeys table) key instruments) inst := by
    intro inst member key claim
    have single : ∀ other ∈ KeyClaims.claimants (Dhan.aliasKeys table) key instruments, other = inst := by
      intro other claims
      obtain ⟨inside, shared⟩ := KeyClaims.mem_claimants.mp claims
      exact once other inside inst member key shared claim
    exact ⟨KeyClaims.mem_claimants.mpr ⟨member, claim⟩,
      fun other claims differs => absurd (single other claims) differs,
      fun other claims differs => absurd (single other claims) differs⟩
  exact ⟨fun inst member => alone inst member _ (Dhan.ownKey_mem (valid inst member)),
    fun inst member key claim => ⟨inst, alone inst member key claim⟩⟩

/-- Every record is found by its own symbol, and every lookup has the same answer for every order of the records,
exactly where the keys are undisputed, with Dhan and with Upstox. -/
theorem resolvers_kept_iff (table : CharTable) (today : String) :
    (∀ instruments : List DhanInstrument, (∀ inst ∈ instruments, inst.Valid table) →
      (instruments.map DhanInstrument.securityId).Nodup →
      (Dhan.Kept table today instruments ↔ Dhan.Undisputed table today instruments)) ∧
    ∀ definitions : List UpstoxInstrumentDefinition, (∀ definition ∈ definitions, definition.Valid table) →
      (definitions.map UpstoxInstrumentDefinition.instrumentKey).Nodup →
      (Upstox.Kept table definitions ↔ Upstox.Undisputed table definitions) :=
  ⟨fun _ valid ids => Dhan.kept_iff_undisputed valid ids, fun _ valid ids => Upstox.kept_iff_undisputed valid ids⟩

/-- An equity share of the NSE. -/
def share (symbol securityId : String) : DhanInstrument where
  symbol := symbol
  securityId := securityId
  exchange := .NSE
  instrumentType := .EQUITY
  exchInstrumentType := some "ES"

def shareRow (symbol securityId : String) : Dhan.Row where
  tradingSymbol := symbol
  securityId := securityId
  exchId := "NSE_EQ"
  instrumentName := "EQUITY"
  exchInstrumentType := "ES"

def shareDefinition (symbol instrumentKey : String) : UpstoxInstrumentDefinition where
  instrumentKey := instrumentKey
  exchangeSegment := "NSE_EQ"
  instrumentType := "EQ"
  tradingSymbol := symbol

theorem resolvers_kept_iff_shares :
    Dhan.Kept .ascii "2026-01-01" [share "TCS" "11536", share "M-M" "2031"] ∧
      Upstox.Kept .ascii [shareDefinition "TCS" "NSE_EQ|11536", shareDefinition "M-M" "NSE_EQ|2031"] := by
  have settled := resolvers_kept_iff .ascii "2026-01-01"
  have valid : ∀ inst ∈ [share "TCS" "11536", share "M-M" "2031"], inst.Valid .ascii := by
    simp only [DhanInstrument.Valid]
    decide +kernel
  constructor
  · refine (settled.1 _ valid (by decide +kernel)).mpr (undisputed_of_once valid ?_)
    decide +kernel
  · refine (settled.2 _ ?_ (by decide +kernel)).mpr ⟨?_, ?_⟩
    · simp only [UpstoxInstrumentDefinition.Valid]
      decide +kernel
    · rw [List.forall_mem_cons, List.forall_mem_singleton]
      refine ⟨⟨[], "TCS", ["TCS", "TCS", "TCS"], by decide +kernel, by decide +kernel, ?_⟩,
        ⟨[], "M-M", ["MM", "M-M", "MM"], by decide +kernel, by decide +kernel, ?_⟩⟩
      · exact fun _ listed => absurd listed List.not_mem_nil
      · exact fun _ listed => absurd listed List.not_mem_nil
    · have once : ∀ first ∈ [shareDefinition "TCS" "NSE_EQ|11536", shareDefinition "M-M" "NSE_EQ|2031"],
          ∀ second ∈ [shareDefinition "TCS" "NSE_EQ|11536", shareDefinition "M-M" "NSE_EQ|2031"],
          ∀ key ∈ first.fileKeys .ascii, key ∈ second.fileKeys .ascii → first = second := by
        decide +kernel
      exact fun first inFirst second inSecond key ofFirst ofSecond _ _ =>
        once first inFirst second inSecond key ofFirst ofSecond

/-- The alias of `M-M` without its dash takes the symbol of the share `MM`, with Dhan where it is loaded first, with
Upstox where it is registered last. -/
theorem alias_takes_own_symbol :
    [shareRow "M-M" "2031", shareRow "MM" "500"].filterMap (Dhan.rowToInstrument .ascii) =
      [share "M-M" "2031", share "MM" "500"] ∧
    (Dhan.ownKey .ascii (share "M-M" "2031") ≠ Dhan.ownKey .ascii (share "MM" "500") ∧
      ((Dhan.loadFromRows .ascii "2026-01-01" [shareRow "M-M" "2031", shareRow "MM" "500"]).1.resolve .ascii "MM" "NSE"
        none).toOption = some (share "M-M" "2031") ∧
      ¬ Dhan.Kept .ascii "2026-01-01" [share "M-M" "2031", share "MM" "500"]) ∧
    Upstox.resolve .ascii (Upstox.registerMany .ascii
      [shareDefinition "MM" "NSE_EQ|500", shareDefinition "M-M" "NSE_EQ|2031"]) "" "MM" "NSE_EQ" =
        some (shareDefinition "M-M" "NSE_EQ|2031") ∧
    ¬ Upstox.Kept .ascii [shareDefinition "MM" "NSE_EQ|500", shareDefinition "M-M" "NSE_EQ|2031"] := by
  have read : [shareRow "M-M" "2031", shareRow "MM" "500"].filterMap (Dhan.rowToInstrument .ascii) =
      [share "M-M" "2031", share "MM" "500"] := by decide +kernel
  have dhan : ((Dhan.loadFromRows .ascii "2026-01-01" [shareRow "M-M" "2031", shareRow "MM" "500"]).1.resolve .ascii "MM"
      "NSE" none).toOption = some (share "M-M" "2031") := by decide +kernel
  have upstox : Upstox.resolve .ascii (Upstox.registerMany .ascii
      [shareDefinition "MM" "NSE_EQ|500", shareDefinition "M-M" "NSE_EQ|2031"]) "" "MM" "NSE_EQ" =
        some (shareDefinition "M-M" "NSE_EQ|2031") := by decide +kernel
  refine ⟨read, ⟨by decide +kernel, dhan, fun kept => ?_⟩, upstox, fun kept => ?_⟩
  · have own := kept.own (share "MM" "500") (List.mem_cons_of_mem _ List.mem_cons_self) none
    rw [Dhan.loadFromRows, read] at dhan
    exact absurd ((congrArg Except.toOption own).symm.trans dhan) (by decide)
  · have own := kept.own (shareDefinition "MM" "NSE_EQ|500") List.mem_cons_self
    exact absurd (own.symm.trans upstox) (by decide)

end TradeX.V1.SymbolResolvers
