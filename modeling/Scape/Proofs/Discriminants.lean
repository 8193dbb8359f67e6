import Scape.Wayland.Macro
import Scape.Lib.Traverse

/-!
# The discriminants of the generated enums

The format writes the value of an entry in decimal or in hexadecimal; the
generator reads it with `str::parse::<u32>`, which knows decimal only, and takes
zero for whatever it cannot read. So the discriminant is the value of the literal
if that is written in decimal, or happens to be zero.
-/

namespace Scape.Wayland

open Numeral Traverse

variable {U : Unicode}

/-! ## One literal -/

theorem decimalDigit_eq_none_iff {c : Char} : decimalDigit c = none ↔ ¬ c.isDigit = true := by
  rw [decimalDigit, ite_eq_right_iff]
  simp only [reduceCtorEq, imp_false]

theorem isDecimal_of_value {acc v : Nat} {cs : Text}
    (h : value decimalDigit 10 acc cs = some v) : IsDecimal cs := by
  intro c hc
  by_contra hdigit
  have hnone : decimalDigit c = none :=
    decimalDigit_eq_none_iff.mpr hdigit
  rw [value_eq_none hc hnone] at h
  cases h

/-- Without a sign, parsing is reading the decimal digits and checking the
range. -/
theorem parseU32_unsigned {literal : Text} (hne : literal ≠ [])
    (hsign : literal.head? ≠ some '+') :
    parseU32 literal = (value decimalDigit 10 0 literal).filter
      (fun v => decide (v < 2 ^ 32)) := by
  rw [← checked_eq (by decide) (by decide)]
  unfold parseU32
  split
  next => exact absurd rfl hsign
  next => rw [if_neg hne]

theorem parseU32_decimal {literal : Text} {v : Nat} (hne : literal ≠ [])
    (h : value decimalDigit 10 0 literal = some v) (hlt : v < 2 ^ 32) :
    parseU32 literal = some v := by
  have hsign : literal.head? ≠ some '+' := fun hhead =>
    absurd (isDecimal_of_value h '+' (List.mem_of_mem_head? hhead)) (by decide)
  rw [parseU32_unsigned hne hsign, h, Option.filter_some, if_pos (decide_eq_true hlt)]

theorem parseU32_hex (digits : Text) : parseU32 ('0' :: 'x' :: digits) = none := by
  have hvalue : value decimalDigit 10 0 ('0' :: 'x' :: digits) = none :=
    value_eq_none (c := 'x') (by simp) (by decide)
  rw [parseU32_unsigned (by simp) (by simp), hvalue]
  rfl

/-- The generator reads a literal right if and only if it is decimal or zero. -/
theorem discriminant_eq_iff {literal : Text} {v : Nat}
    (hv : literalValue literal = some v) (hlt : v < 2 ^ 32) :
    (parseU32 literal).getD 0 = v ↔ IsDecimal literal ∨ v = 0 := by
  unfold literalValue at hv
  split at hv
  next digits =>
    have hhex : ¬ IsDecimal ('0' :: 'x' :: digits) :=
      fun h => absurd (h 'x' (by simp)) (by decide)
    rw [parseU32_hex, Option.getD_none]
    simp only [hhex, false_or]
    exact eq_comm
  next =>
    split at hv
    · cases hv
    next hne =>
      rw [parseU32_decimal hne hv hlt, Option.getD_some]
      simp [isDecimal_of_value hv]

/-! ## A protocol -/

def EnumItem.discriminants (item : EnumItem) : List Nat := item.entries.map Prod.snd

def Enum.values (e : Enum) : List (Option Nat) :=
  e.entry.map fun entry => literalValue entry.value

def Enum.Valued (e : Enum) : Prop := ∀ entry ∈ e.entry, ValidLiteral entry.value

theorem discriminants_generateEnum {interfaceName : Text} {e : Enum} {item : EnumItem}
    (h : generateEnum U interfaceName e = some item) :
    item.discriminants = e.entry.map fun entry => (parseU32 entry.value).getD 0 := by
  simp only [generateEnum, Option.bind_eq_bind, Option.bind_eq_some_iff] at h
  obtain ⟨name, -, entries, hentries, hitem⟩ := h
  cases hitem
  rw [mapM_eq_some_iff] at hentries
  simp only [EnumItem.discriminants]
  generalize e.entry = source at hentries ⊢
  induction hentries with
  | nil => rfl
  | cons hentry _ ih =>
      simp only [generateEntry, Option.bind_eq_bind, Option.bind_eq_some_iff] at hentry
      obtain ⟨entryName, -, hentry⟩ := hentry
      cases hentry
      rw [List.map_cons, List.map_cons, ih]

/-- An enum's discriminants are its values if and only if every literal is
decimal or zero. -/
theorem discriminants_eq_values_iff {interfaceName : Text} {e : Enum} {item : EnumItem}
    (h : generateEnum U interfaceName e = some item) (hvalued : e.Valued) :
    item.discriminants.map some = e.values ↔
      ∀ entry ∈ e.entry, IsDecimal entry.value ∨ literalValue entry.value = some 0 := by
  rw [discriminants_generateEnum h, Enum.values, List.map_map, List.map_inj_left]
  refine forall₂_congr fun entry hentry => ?_
  obtain ⟨v, hv, hlt⟩ := hvalued entry hentry
  rw [Option.mem_def] at hv
  rw [hv, Function.comp_apply, Option.some.injEq, discriminant_eq_iff hv hlt,
    Option.some.injEq]

theorem expand_enums {protocol : Protocol} {code : Code}
    (h : expand U protocol = some code) :
    List.Forall₂ (fun e item => ∃ name, generateEnum U name e = some item)
      protocol.enums code.enums := by
  simp only [expand, Option.bind_eq_bind, Option.bind_eq_some_iff] at h
  obtain ⟨interfaces, hinterfaces, hcode⟩ := h
  cases hcode
  refine List.rel_flatMap (mapM_eq_some_iff.mp hinterfaces) fun i icode hi => ?_
  simp only [generateInterfaceCode, Option.bind_eq_bind, Option.bind_eq_some_iff] at hi
  obtain ⟨name, -, enums, henums, requests, -, events, -, hicode⟩ := hi
  cases hicode
  exact (mapM_eq_some_iff.mp henums).imp fun e item he => ⟨name, he⟩

/-- In every expansion, every enum whose literals are valid has the discriminants
its description gives it if and only if each of its literals is decimal or
zero. -/
theorem discriminants_iff {protocol : Protocol} {code : Code}
    (h : expand U protocol = some code) :
    List.Forall₂ (fun e item => e.Valued →
        (item.discriminants.map some = e.values ↔
          ∀ entry ∈ e.entry, IsDecimal entry.value ∨ literalValue entry.value = some 0))
      protocol.enums code.enums :=
  (expand_enums h).imp fun _ _ ⟨_, he⟩ hvalued => discriminants_eq_values_iff he hvalued

def outputMode : Protocol where
  interface := [{
    name := "wl_output".toList
    request := none
    event := none
    interfaceEnum := some [{
      name := "mode".toList
      entry := [⟨"current".toList, "0x1".toList⟩, ⟨"preferred".toList, "0x2".toList⟩] }] }]

theorem discriminants_iff_outputMode :
    ∃ code, expand asciiUnicode outputMode = some code ∧
      List.Forall₂ (fun e item => e.Valued →
          (item.discriminants.map some = e.values ↔
            ∀ entry ∈ e.entry, IsDecimal entry.value ∨ literalValue entry.value = some 0))
        outputMode.enums code.enums :=
  have h : expand asciiUnicode outputMode = some _ := rfl
  ⟨_, h, discriminants_iff h⟩

/-- Both modes are generated as zero. -/
theorem outputMode_discriminants :
    (∀ e ∈ outputMode.enums, e.Valued) ∧
    outputMode.enums.map Enum.values = [[some 1, some 2]] ∧
    (expand asciiUnicode outputMode).map (fun code =>
      code.enums.map EnumItem.discriminants) = some [[0, 0]] := by
  refine ⟨?_, by decide, by decide⟩
  simp only [outputMode, Protocol.enums, Interface.enums, List.flatMap_cons,
    List.flatMap_nil, Option.getD_some, List.append_nil, List.forall_mem_singleton,
    Enum.Valued, List.forall_mem_cons]
  exact ⟨⟨1, rfl, by decide⟩, ⟨2, rfl, by decide⟩⟩

end Scape.Wayland
