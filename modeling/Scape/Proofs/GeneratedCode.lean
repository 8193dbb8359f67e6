import Scape.Wayland.Names

/-!
# Legal and closed code

The generated code should use legal identifiers only and mention no type that
nobody defines. Neither can be promised. An entry such as `90` of the output
transforms begins with a digit and stops the macro; an argument named `type`
becomes a field named by a keyword; and the object type of an interface, which
every argument that names the interface mentions, is never generated at all. The
type exists only where an enum happens to have that name.

`Nameable` lists what a well-formed description has to avoid, and the generated
code is legal and closed exactly for the descriptions that do.
-/

namespace Scape.Wayland

variable {U : Unicode}

/-! ## Letters -/

theorem isDigit_toUpper {c : Char} (h : isWordChar c = true) :
    c.toUpper.isDigit = c.isDigit :=
  forall_ascii (P := fun c => c.toUpper.isDigit = c.isDigit) (by decide) (isWordChar_lt h)

theorem isWordChar_toUpper {c : Char} (h : isWordChar c = true) :
    isWordChar c.toUpper = true :=
  forall_ascii (P := fun c => isWordChar c = true → isWordChar c.toUpper = true)
    (by decide) (isWordChar_lt h) h

theorem isWordChar_toLower {c : Char} (h : isWordChar c = true) :
    isWordChar c.toLower = true :=
  forall_ascii (P := fun c => isWordChar c = true → isWordChar c.toLower = true)
    (by decide) (isWordChar_lt h) h

theorem toUpper_eq_underscore {c : Char} (h : isWordChar c = true) :
    c.toUpper = '_' ↔ c = '_' :=
  forall_ascii (P := fun c => c.toUpper = '_' ↔ c = '_') (by decide) (isWordChar_lt h)

theorem isLower_toUpper {c : Char} (h : isWordChar c = true) : c.toUpper.isLower = false :=
  forall_ascii (P := fun c => c.toUpper.isLower = false) (by decide) (isWordChar_lt h)

theorem isDigit_eq_not_isAlpha {c : Char} (h : isWordChar c = true) (hc : c ≠ '_') :
    c.isDigit = !c.isAlpha :=
  forall_ascii (P := fun c => isWordChar c = true → c ≠ '_' → c.isDigit = !c.isAlpha)
    (by decide) (isWordChar_lt h) h hc

theorem IsWord.append {s t : Text} (hs : IsWord s) (ht : IsWord t) : IsWord (s ++ t) :=
  List.forall_mem_append.mpr ⟨hs, ht⟩

theorem IsWord.upper {s : Text} (hs : IsWord s) : U.upper s = s.map Char.toUpper :=
  U.upper_ascii s fun c hc => isWordChar_lt (hs c hc)

/-! ## Pascal case -/

theorem mem_splitOn {s w : Text} {c : Char} (hw : w ∈ s.splitOn '_') (hc : c ∈ w) :
    c ∈ s ∧ c ≠ '_' := by
  induction s generalizing w with
  | nil =>
      rw [List.splitOn_nil, List.mem_singleton] at hw
      rw [hw] at hc
      cases hc
  | cons d s ih =>
      have hlater : (c ∈ s ∧ c ≠ '_') → c ∈ d :: s ∧ c ≠ '_' :=
        fun h => ⟨List.mem_cons_of_mem _ h.1, h.2⟩
      rw [List.splitOn_cons_eq_if_modifyHead] at hw
      split at hw
      · rcases List.mem_cons.mp hw with rfl | hw
        · cases hc
        · exact hlater (ih hw hc)
      · next hd =>
          obtain ⟨v, vs, hsplit⟩ := List.exists_cons_of_ne_nil (List.splitOn_ne_nil '_' s)
          rw [hsplit] at hw ih
          rcases List.mem_cons.mp hw with rfl | hw
          · rcases List.mem_cons.mp hc with rfl | hc
            · exact ⟨List.mem_cons_self, by simpa using hd⟩
            · exact hlater (ih List.mem_cons_self hc)
          · exact hlater (ih (List.mem_cons_of_mem _ hw) hc)

theorem IsWord.pascalWord {s : Text} (hs : IsWord s) : IsWord (pascalWord U s) := by
  cases s with
  | nil => exact fun _ hc => absurd hc List.not_mem_nil
  | cons first rest =>
      obtain ⟨hfirst, hrest⟩ := List.forall_mem_cons.mp hs
      rw [Wayland.pascalWord, U.charUpper_ascii _ (isWordChar_lt hfirst),
        U.lower_ascii _ fun c hc => isWordChar_lt (hrest c hc)]
      refine IsWord.append (List.forall_mem_singleton.mpr (isWordChar_toUpper hfirst)) ?_
      exact List.forall_mem_map.mpr fun c hc => isWordChar_toLower (hrest c hc)

theorem IsWord.pascal {s : Text} (hs : IsWord s) : IsWord (snakeToPascalCase U s) := by
  refine List.forall_mem_flatMap.mpr fun w hw => ?_
  exact IsWord.pascalWord fun c hc => hs c (mem_splitOn hw hc).1

theorem pascal_underscore {s : Text} :
    snakeToPascalCase U ('_' :: s) = snakeToPascalCase U s := by
  rw [snakeToPascalCase, List.splitOn_cons_eq_if_modifyHead]
  rfl

theorem pascal_cons {c : Char} {s : Text} (hc : c ≠ '_') :
    ∃ rest, snakeToPascalCase U (c :: s) = U.charUpper c ++ rest := by
  obtain ⟨v, vs, hsplit⟩ := List.exists_cons_of_ne_nil (List.splitOn_ne_nil '_' s)
  rw [snakeToPascalCase, List.splitOn_cons_eq_if_modifyHead, if_neg (by simpa using hc),
    hsplit]
  exact ⟨_, List.append_assoc _ _ _⟩

/-- It begins with the first character that is no underscore, in upper case. -/
theorem pascal_head? {s : Text} (hs : IsWord s) :
    (snakeToPascalCase U s).head? = (s.find? (· != '_')).map Char.toUpper := by
  induction s with
  | nil => rfl
  | cons c s ih =>
      obtain ⟨hc, hrest⟩ := List.forall_mem_cons.mp hs
      by_cases hu : c = '_'
      · rw [hu, pascal_underscore, ih hrest]
        rfl
      · obtain ⟨rest, hcons⟩ := pascal_cons (U := U) (s := s) hu
        rw [hcons, U.charUpper_ascii c (isWordChar_lt hc),
          List.find?_cons_of_pos (by simpa using hu)]
        rfl

def LetterFirst (s : Text) : Prop := (s.find? (· != '_')).any Char.isAlpha = true

instance (s : Text) : Decidable (LetterFirst s) := inferInstanceAs (Decidable (_ = true))

theorem isIdent_pascal_iff {s : Text} (hs : IsWord s) :
    isIdent U (snakeToPascalCase U s) = true ↔ LetterFirst s := by
  rw [isIdent_iff hs.pascal, ← List.isSome_head?, DigitFirst, pascal_head? hs, LetterFirst]
  cases hfind : s.find? (· != '_') with
  | none => simp
  | some c =>
      have hc := hs c (List.mem_of_find?_eq_some hfind)
      have hne : c ≠ '_' := by simpa using List.find?_some hfind
      simp [isDigit_toUpper hc, isDigit_eq_not_isAlpha hc hne]

/-! ## Legal names -/

def Capitalized (s : Text) : Prop := s.head?.any Char.isUpper = true

instance (s : Text) : Decidable (Capitalized s) := inferInstanceAs (Decidable (_ = true))

theorem LetterFirst.capitalized {s t : Text} (h : LetterFirst s) (hs : IsWord s) :
    Capitalized (snakeToPascalCase U s ++ t) := by
  obtain ⟨c, hc, hletter⟩ := (Option.any_eq_true _ _).mp h
  have hcapital : c.toUpper.isUpper = true :=
    forall_ascii (P := fun c => c.isAlpha = true → c.toUpper.isUpper = true)
      (by decide) (isWordChar_lt (hs c (List.mem_of_find?_eq_some hc))) hletter
  rw [Capitalized, List.head?_append, pascal_head? hs, hc]
  exact hcapital

theorem Capitalized.not_digitFirst {s : Text} (h : Capitalized s) (hs : IsWord s) :
    s ≠ [] ∧ ¬ DigitFirst s := by
  cases s with
  | nil => cases h
  | cons c s =>
      refine ⟨List.cons_ne_nil c s, ?_⟩
      exact forall_ascii (P := fun c => c.isUpper = true → ¬ c.isDigit = true)
        (by decide) (isWordChar_lt (hs c List.mem_cons_self)) h

/-- One keyword begins with a capital letter. -/
theorem legalIdent_capitalized_iff {s : Text} (hs : IsWord s) (h : Capitalized s) :
    LegalIdent U s ↔ s ≠ "Self".toList := by
  have hkeyword : IsKeyword s → s = "Self".toList := fun hmem =>
    (by decide : ∀ k ∈ keywords, Capitalized k → k = "Self".toList) s hmem h
  constructor
  · rintro ⟨-, hnot, -⟩ rfl
    exact hnot (by decide)
  · intro hself
    refine ⟨(isIdent_iff hs).mpr (h.not_digitFirst hs),
      fun hmem => hself (hkeyword hmem), ?_⟩
    rintro rfl
    exact absurd h (by decide)

/-- The ending of a name, as long as it takes to tell the suffixes apart. -/
def ending (s : Text) : Text := s.reverse.take 3

theorem ending_append {s suffix : Text} (h : 3 ≤ suffix.length) :
    ending (s ++ suffix) = ending suffix := by
  rw [ending, List.reverse_append, List.take_append_of_le_length (by simpa using h), ending]

theorem legalIdent_upper_iff {s : Text} (hs : TrailingName s) :
    LegalIdent U (U.upper s) ↔ s ≠ ['_'] ∧ ¬ DigitFirst s := by
  obtain ⟨hne, hword⟩ := hs
  obtain ⟨c, rest, rfl⟩ := List.exists_cons_of_ne_nil hne
  have hc := hword c List.mem_cons_self
  have hupper : IsWord ((c :: rest).map Char.toUpper) :=
    List.forall_mem_map.mpr fun d hd => isWordChar_toUpper (hword d hd)
  -- every keyword has a small letter
  have hkeyword : ¬ IsKeyword ((c :: rest).map Char.toUpper) := fun hmem => by
    have hsmall := (by decide : ∀ k ∈ keywords, k.any Char.isLower = true) _ hmem
    obtain ⟨d, hd, hlower⟩ := List.any_eq_true.mp hsmall
    obtain ⟨d', hd', rfl⟩ := List.mem_map.mp hd
    rw [isLower_toUpper (hword d' hd')] at hlower
    cases hlower
  have hunderscore : (c :: rest).map Char.toUpper = ['_'] ↔ c :: rest = ['_'] := by
    rw [List.map_cons, List.cons.injEq, List.map_eq_nil_iff, toUpper_eq_underscore hc,
      List.cons.injEq]
  have hdigit : DigitFirst ((c :: rest).map Char.toUpper) ↔ DigitFirst (c :: rest) := by
    rw [DigitFirst, DigitFirst, List.map_cons, List.head?_cons, List.head?_cons,
      Option.any_some, Option.any_some, isDigit_toUpper hc]
  rw [IsWord.upper hword, LegalIdent, isIdent_iff hupper, hdigit, Ne, Ne, hunderscore]
  constructor
  · rintro ⟨⟨-, hfirst⟩, -, hother⟩
    exact ⟨hother, hfirst⟩
  · rintro ⟨hother, hfirst⟩
    exact ⟨⟨by simp, hfirst⟩, hkeyword, hother⟩

theorem legalIdent_arg_iff {s : Text} (hs : StandaloneName s) :
    LegalIdent U s ↔ ¬ IsKeyword s ∧ s ≠ ['_'] := by
  obtain ⟨⟨hne, hword⟩, hfirst⟩ := hs
  exact and_iff_right ((isIdent_iff hword).mpr ⟨hne, hfirst⟩)

/-! ## Descriptions that can be expanded -/

/-- What a well-formed description has to avoid. -/
structure Nameable (U : Unicode) (p : Protocol) : Prop where
  /-- an interface name that begins with a digit, underscores aside, or has nothing
  else -/
  interfaces : ∀ i ∈ p.interface, LetterFirst i.name
  /-- an enum whose type would be the keyword `Self` -/
  enums : ∀ i ∈ p.interface, ∀ e ∈ i.enums, i.enumName U e ≠ "Self".toList
  /-- an entry that begins with a digit or is the wildcard -/
  entries : ∀ e ∈ p.enums, ∀ entry ∈ e.entry,
    entry.name ≠ ['_'] ∧ ¬ DigitFirst entry.name
  /-- an argument that is a keyword or the wildcard -/
  args : ∀ a ∈ p.args, ¬ IsKeyword a.name ∧ a.name ≠ ['_']
  /-- an argument of an interface, unless an enum has the name of its object type -/
  references : ∀ a ∈ p.args, ∀ iface ∈ a.interface,
    ∃ i ∈ p.interface, ∃ e ∈ i.enums, i.enumName U e = objectName U iface

instance (p : Protocol) : Decidable (Nameable U p) :=
  decidable_of_iff ((∀ i ∈ p.interface, LetterFirst i.name) ∧
      (∀ i ∈ p.interface, ∀ e ∈ i.enums, i.enumName U e ≠ "Self".toList) ∧
      (∀ e ∈ p.enums, ∀ entry ∈ e.entry,
        entry.name ≠ ['_'] ∧ ¬ DigitFirst entry.name) ∧
      (∀ a ∈ p.args, ¬ IsKeyword a.name ∧ a.name ≠ ['_']) ∧
      ∀ a ∈ p.args, ∀ iface ∈ a.interface,
        ∃ i ∈ p.interface, ∃ e ∈ i.enums, i.enumName U e = objectName U iface)
    ⟨fun ⟨hinterfaces, henums, hentries, hargs, hreferences⟩ =>
        ⟨hinterfaces, henums, hentries, hargs, hreferences⟩,
      fun h => ⟨h.interfaces, h.enums, h.entries, h.args, h.references⟩⟩

theorem WellFormed.arg {p : Protocol} (h : WellFormed p) {a : Arg} (ha : a ∈ p.args) :
    a.WellFormed := by
  obtain ⟨i, hi, ha⟩ := List.mem_flatMap.mp ha
  obtain ⟨m, hm, ha⟩ := List.mem_flatMap.mp ha
  rcases List.mem_append.mp hm with hm | hm
  · exact ((h i hi).requests m hm).args a ha
  · exact ((h i hi).events m hm).args a ha

theorem legalIdent_enumName_iff {i : Interface} {e : Enum} (hi : i.WellFormed)
    (he : e ∈ i.enums) (hfirst : LetterFirst i.name) :
    LegalIdent U (i.enumName U e) ↔ i.enumName U e ≠ "Self".toList :=
  legalIdent_capitalized_iff
    (IsWord.append (IsWord.pascal hi.name.1.2) (IsWord.pascal (hi.enums e he).name.2))
    (hfirst.capitalized hi.name.1.2)

/-- The names of structs are always legal, being longer than `Self`. -/
theorem legalIdent_structName {i : Interface} {m : Message} {suffix : Text}
    (hi : i.WellFormed) (hm : m.WellFormed) (hfirst : LetterFirst i.name)
    (hsuffix : IsWord suffix) (hlength : 4 < suffix.length) :
    LegalIdent U (i.structName U suffix m) := by
  have hword : IsWord (i.structName U suffix m) :=
    ((IsWord.pascal hi.name.1.2).append (IsWord.pascal hm.name.1.2)).append hsuffix
  have hcapital : Capitalized (i.structName U suffix m) := by
    rw [Interface.structName, List.append_assoc]
    exact hfirst.capitalized hi.name.1.2
  refine (legalIdent_capitalized_iff hword hcapital).mpr fun hself => ?_
  have hlen := congrArg List.length hself
  simp only [Interface.structName, List.length_append, String.length_toList] at hlen
  have : "Self".length = 4 := rfl
  omega

/-- An object type is never the name of a struct. -/
theorem objectName_mem_defined_iff {p : Protocol} {iface : Text} :
    objectName U iface ∈ p.defined U ↔
      ∃ i ∈ p.interface, ∃ e ∈ i.enums, i.enumName U e = objectName U iface := by
  have hobject : ending (objectName U iface) = "ect".toList.reverse :=
    ending_append (by decide)
  have hstruct : ∀ i, objectName U iface ∉ Interface.structNames U i := by
    intro i hmem
    rcases List.mem_append.mp hmem with hmem | hmem
    · obtain ⟨m, -, hname⟩ := List.mem_map.mp hmem
      rw [← hname, Interface.structName, ending_append (by decide)] at hobject
      exact absurd hobject (by decide)
    · obtain ⟨m, -, hname⟩ := List.mem_map.mp hmem
      rw [← hname, Interface.structName, ending_append (by decide)] at hobject
      exact absurd hobject (by decide)
  constructor
  · intro h
    rcases List.mem_append.mp h with h | h
    · rcases List.mem_cons.mp h with h | h
      · rw [h] at hobject
        exact absurd hobject (by decide)
      · obtain ⟨i, hi, h⟩ := List.mem_flatMap.mp h
        obtain ⟨e, he, h⟩ := List.mem_map.mp h
        exact ⟨i, hi, e, he, h⟩
    · obtain ⟨i, -, h⟩ := List.mem_flatMap.mp h
      exact absurd h (hstruct i)
  · rintro ⟨i, hi, e, he, h⟩
    refine List.mem_append_left _ (List.mem_cons_of_mem _ ?_)
    exact List.mem_flatMap.mpr ⟨i, hi, List.mem_map.mpr ⟨e, he, h⟩⟩

/-! ## Main results -/

/-- What is asked of the generated code, asked of the description. -/
theorem generates_legal_closed_iff {p : Protocol} :
    (∃ code, expand U p = some code ∧ code.Legal U ∧ code.Closed) ↔
      (∀ i ∈ p.interface, isIdent U (snakeToPascalCase U i.name) = true) ∧
      (∀ name ∈ p.idents U, LegalIdent U name) ∧
      ∀ a ∈ p.args, ∀ name ∈ a.typeName U, name ∈ p.defined U := by
  constructor
  · rintro ⟨code, hcode, hlegal, hclosed⟩
    rw [Code.Legal, expand_idents hcode] at hlegal
    exact ⟨(expand_isSome_iff.mp ⟨code, hcode⟩).1, hlegal,
      (expand_closed_iff hcode).mp hclosed⟩
  · rintro ⟨hinterfaces, hlegal, hclosed⟩
    obtain ⟨code, hcode⟩ :=
      expand_isSome_iff.mpr ⟨hinterfaces, fun name hname => (hlegal name hname).1⟩
    refine ⟨code, hcode, ?_, (expand_closed_iff hcode).mpr hclosed⟩
    rwa [Code.Legal, expand_idents hcode]

theorem Nameable.legal {p : Protocol} (h : Nameable U p) (hp : WellFormed p) :
    ∀ name ∈ p.idents U, LegalIdent U name := by
  have henum : ∀ i ∈ p.interface, ∀ e ∈ i.enums, LegalIdent U (i.enumName U e) :=
    fun i hi e he =>
      (legalIdent_enumName_iff (hp i hi) he (h.interfaces i hi)).mpr (h.enums i hi e he)
  intro name hname
  rcases List.mem_append.mp hname with hname | hname
  · rcases List.mem_append.mp hname with hname | hname
    · obtain ⟨i, hi, hname⟩ := List.mem_flatMap.mp hname
      obtain ⟨e, he, hname⟩ := List.mem_flatMap.mp hname
      rcases List.mem_cons.mp hname with rfl | hname
      · exact henum i hi e he
      · obtain ⟨entry, hentry, rfl⟩ := List.mem_map.mp hname
        exact (legalIdent_upper_iff (((hp i hi).enums e he).entries entry hentry)).mpr
          (h.entries e (List.mem_flatMap.mpr ⟨i, hi, he⟩) entry hentry)
    · obtain ⟨i, hi, hname⟩ := List.mem_flatMap.mp hname
      rcases List.mem_append.mp hname with hname | hname
      · obtain ⟨m, hm, rfl⟩ := List.mem_map.mp hname
        exact legalIdent_structName (hp i hi) ((hp i hi).requests m hm)
          (h.interfaces i hi) (by decide) (by decide)
      · obtain ⟨m, hm, rfl⟩ := List.mem_map.mp hname
        exact legalIdent_structName (hp i hi) ((hp i hi).events m hm)
          (h.interfaces i hi) (by decide) (by decide)
  · obtain ⟨a, ha, hname⟩ := List.mem_flatMap.mp hname
    rcases List.mem_cons.mp hname with rfl | hname
    · exact (legalIdent_arg_iff (hp.arg ha).name).mpr (h.args a ha)
    · rw [Option.mem_toList, Arg.typeName, Option.ite_none_right_eq_some,
        Option.some.injEq] at hname
      obtain ⟨-, rfl⟩ := hname
      cases hiface : a.interface with
      | none =>
          rw [Option.elim_none]
          exact ⟨isIdent_objectId, by decide, by decide⟩
      | some iface =>
          obtain ⟨i, hi, e, he, hobject⟩ := h.references a ha iface hiface
          rw [Option.elim_some, ← hobject]
          exact henum i hi e he

theorem Nameable.closed {p : Protocol} (h : Nameable U p) :
    ∀ a ∈ p.args, ∀ name ∈ a.typeName U, name ∈ p.defined U := by
  intro a ha name hname
  rw [Option.mem_def, Arg.typeName, Option.ite_none_right_eq_some,
    Option.some.injEq] at hname
  obtain ⟨-, rfl⟩ := hname
  cases hiface : a.interface with
  | none => exact List.mem_append_left _ List.mem_cons_self
  | some iface => exact objectName_mem_defined_iff.mpr (h.references a ha iface hiface)

/-- For a well-formed description the macro generates legal and closed code
exactly if the description avoids the names it cannot cope with. -/
theorem generates_legal_closed_iff_nameable {p : Protocol} (hp : WellFormed p) :
    (∃ code, expand U p = some code ∧ code.Legal U ∧ code.Closed) ↔ Nameable U p := by
  rw [generates_legal_closed_iff]
  constructor
  · rintro ⟨hinterfaces, hlegal, hclosed⟩
    have hfirst : ∀ i ∈ p.interface, LetterFirst i.name := fun i hi =>
      (isIdent_pascal_iff (hp i hi).name.1.2).mp (hinterfaces i hi)
    have henum : ∀ i ∈ p.interface, ∀ e ∈ i.enums,
        ∀ name ∈ i.enumName U e :: e.entry.map (fun entry => U.upper entry.name),
          LegalIdent U name := fun i hi e he name hname =>
      hlegal name (List.mem_append_left _ (List.mem_append_left _
        (List.mem_flatMap.mpr ⟨i, hi, List.mem_flatMap.mpr ⟨e, he, hname⟩⟩)))
    refine ⟨hfirst, fun i hi e he => ?_, fun e he entry hentry => ?_, fun a ha => ?_,
      fun a ha iface hiface => ?_⟩
    · exact (legalIdent_enumName_iff (hp i hi) he (hfirst i hi)).mp
        (henum i hi e he _ List.mem_cons_self)
    · obtain ⟨i, hi, he⟩ := List.mem_flatMap.mp he
      exact (legalIdent_upper_iff (((hp i hi).enums e he).entries entry hentry)).mp
        (henum i hi e he _ (List.mem_cons_of_mem _ (List.mem_map.mpr ⟨entry, hentry, rfl⟩)))
    · refine (legalIdent_arg_iff (hp.arg ha).name).mp (hlegal _ ?_)
      exact List.mem_append_right _ (List.mem_flatMap.mpr ⟨a, ha, List.mem_cons_self⟩)
    · have hobject : a.IsObject := ((hp.arg ha).interface iface hiface).2
      refine objectName_mem_defined_iff.mp (hclosed a ha _ ?_)
      rw [Arg.typeName, if_pos hobject, hiface]
      rfl
  · intro h
    exact ⟨fun i hi => (isIdent_pascal_iff (hp i hi).name.1.2).mpr (h.interfaces i hi),
      h.legal hp, h.closed⟩

def callback : Protocol where
  interface := [{
    name := "wl_callback".toList
    request := none
    event := some [⟨"done".toList,
      some [⟨"callback_data".toList, "uint".toList, none, none⟩]⟩]
    interfaceEnum := none }]

theorem generates_legal_closed_callback :
    ∃ code, expand asciiUnicode callback = some code ∧ code.Legal asciiUnicode ∧
      code.Closed :=
  (generates_legal_closed_iff_nameable (by decide)).mpr (by decide)

def outputTransform : Protocol where
  interface := [{
    name := "wl_output".toList
    request := none
    event := none
    interfaceEnum := some [{
      name := "transform".toList
      entry := [⟨"normal".toList, "0".toList⟩, ⟨"90".toList, "1".toList⟩] }] }]

/-- Buffers, and the request that attaches one to a surface. -/
def surfaceAttach : Protocol where
  interface := [
    { name := "wl_buffer".toList
      request := some [⟨"destroy".toList, none⟩]
      event := some [⟨"release".toList, none⟩]
      interfaceEnum := none },
    { name := "wl_surface".toList
      request := some [⟨"attach".toList,
        some [⟨"buffer".toList, "object".toList, some "wl_buffer".toList, some true⟩,
          ⟨"x".toList, "int".toList, none, none⟩,
          ⟨"y".toList, "int".toList, none, none⟩]⟩]
      event := none
      interfaceEnum := none }]

/-- The first stops the macro; the second is generated with a type nobody
defines. -/
theorem generates_no_legal_closed :
    WellFormed outputTransform ∧ expand asciiUnicode outputTransform = none ∧
    WellFormed surfaceAttach ∧
      ∃ code, expand asciiUnicode surfaceAttach = some code ∧ ¬ code.Closed := by
  refine ⟨by decide, by decide, by decide, _, rfl, ?_⟩
  decide

end Scape.Wayland
