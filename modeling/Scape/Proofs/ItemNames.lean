import Scape.Proofs.GeneratedCode

/-!
# Which items share a name

The macro names an item by its interface, the message or enum, and a suffix for
requests and events, each with its words capitalised and nothing in between. The
words survive that, as every word but the first begins with a capital. Where the
name of the interface ends does not, and neither does the difference between a
suffix and a last word. So the request `c` of `a_b` and the request `b_c` of `a`
are both `ABCRequest`, and so is an enum `b_c_request` of `a`.

Two items have different names exactly if they differ in their words. Underscores
without a word between them do not count, and a word that begins with a digit is
a part of the one before it, since a digit has no upper case.
-/

namespace Scape.Wayland

variable {U : Unicode}

/-! ## Items -/

inductive ItemKind where
  | enum
  | request
  | event
  deriving DecidableEq, Repr

/-- An item of a description: an interface, a kind, and the name of one of its
messages or enums. -/
structure Item where
  interface : Text
  kind : ItemKind
  name : Text
  deriving DecidableEq, Repr

def ItemKind.suffix : ItemKind → Text
  | .enum => []
  | .request => "Request".toList
  | .event => "Event".toList

def Item.rustName (U : Unicode) (item : Item) : Text :=
  snakeToPascalCase U item.interface ++ snakeToPascalCase U item.name ++ item.kind.suffix

def Interface.items (i : Interface) : List Item :=
  i.enums.map (fun e => ⟨i.name, .enum, e.name⟩) ++
    (i.requests.map (fun m => ⟨i.name, .request, m.name⟩) ++
      i.events.map fun m => ⟨i.name, .event, m.name⟩)

def Protocol.items (p : Protocol) : List Item := p.interface.flatMap Interface.items

theorem Interface.map_rustName_items (i : Interface) :
    i.items.map (Item.rustName U) = i.enums.map (i.enumName U) ++ i.structNames U := by
  rw [Interface.items, Interface.structNames, List.map_append, List.map_append,
    List.map_map, List.map_map, List.map_map]
  refine congrArg (· ++ _) (List.map_congr_left fun e _ => ?_)
  exact List.append_nil _

/-- The items of an expansion have the names of the items of the description. -/
theorem expand_itemNames {p : Protocol} {code : Code} (h : expand U p = some code) :
    (code.interfaces.flatMap fun icode => icode.enums.map EnumItem.name ++
        (icode.requests ++ icode.events).map StructItem.name) =
      p.items.map (Item.rustName U) := by
  rw [Protocol.items, List.map_flatMap]
  refine Traverse.flatMap_of_mapM (expand_interfaces h) fun i icode hi => ?_
  rw [generateInterfaceCode_enumNames hi, generateInterfaceCode_structNames hi,
    Interface.map_rustName_items]

theorem WellFormed.item {p : Protocol} (h : WellFormed p) {item : Item}
    (hitem : item ∈ p.items) : IsWord item.interface ∧ IsWord item.name := by
  obtain ⟨i, hi, hitem⟩ := List.mem_flatMap.mp hitem
  have hiface := (h i hi).name.1.2
  rcases List.mem_append.mp hitem with henum | hmessage
  · obtain ⟨e, he, rfl⟩ := List.mem_map.mp henum
    exact ⟨hiface, ((h i hi).enums e he).name.2⟩
  · rcases List.mem_append.mp hmessage with hrequest | hevent
    · obtain ⟨m, hm, rfl⟩ := List.mem_map.mp hrequest
      exact ⟨hiface, ((h i hi).requests m hm).name.1.2⟩
    · obtain ⟨m, hm, rfl⟩ := List.mem_map.mp hevent
      exact ⟨hiface, ((h i hi).events m hm).name.1.2⟩

/-! ## The words of a name -/

/-- The parts of a name between underscores, in lower case. -/
def parts (s : Text) : List Text :=
  ((s.splitOn '_').filter (· ≠ [])).map fun w => w.map Char.toLower

/-- Puts a part that begins with a digit behind the one before it. -/
def glue : List Text → List Text
  | [] => []
  | w :: ws =>
      match glue ws with
      | [] => [w]
      | v :: vs => if DigitFirst v then (w ++ v) :: vs else w :: v :: vs

def ItemKind.parts : ItemKind → List Text
  | .enum => []
  | .request => ["request".toList]
  | .event => ["event".toList]

/-- The words an item is named by: of its interface, its message or enum, and its
kind. -/
def Item.words (item : Item) : List Text :=
  glue (parts item.interface ++ parts item.name ++ item.kind.parts)

/-- The first letter of a word in upper case. -/
def capitalize : Text → Text
  | [] => []
  | c :: cs => c.toUpper :: cs

def isSmall (c : Char) : Bool := c.isLower || c.isDigit

/-- A part has small letters and digits, and is not empty. -/
def IsPart (w : Text) : Prop := w ≠ [] ∧ ∀ c ∈ w, isSmall c = true

/-! ## The name from the words -/

theorem toUpper_toLower {c : Char} (h : isWordChar c = true) :
    c.toLower.toUpper = c.toUpper :=
  forall_ascii (P := fun c => c.toLower.toUpper = c.toUpper) (by decide) (isWordChar_lt h)

theorem isSmall_toLower {c : Char} (h : isWordChar c = true) (hc : c ≠ '_') :
    isSmall c.toLower = true :=
  forall_ascii (P := fun c => isWordChar c = true → c ≠ '_' → isSmall c.toLower = true)
    (by decide) (isWordChar_lt h) h hc

theorem isPart_of_mem_parts {s w : Text} (hs : IsWord s) (hw : w ∈ parts s) : IsPart w := by
  obtain ⟨v, hv, rfl⟩ := List.mem_map.mp hw
  obtain ⟨hsplit, hne⟩ := List.mem_filter.mp hv
  refine ⟨fun hnil => of_decide_eq_true hne (List.map_eq_nil_iff.mp hnil), ?_⟩
  intro c hc
  obtain ⟨d, hd, rfl⟩ := List.mem_map.mp hc
  obtain ⟨hmem, hd⟩ := mem_splitOn hsplit hd
  exact isSmall_toLower (hs d hmem) hd

theorem pascalWord_eq {w : Text} (hw : IsWord w) :
    pascalWord U w = capitalize (w.map Char.toLower) := by
  cases w with
  | nil => rfl
  | cons c cs =>
      obtain ⟨hc, hcs⟩ := List.forall_mem_cons.mp hw
      rw [pascalWord, U.charUpper_ascii c (isWordChar_lt hc),
        U.lower_ascii cs fun d hd => isWordChar_lt (hcs d hd), List.map_cons, capitalize,
        toUpper_toLower hc]
      rfl

/-- Pascal case capitalises the parts. -/
theorem pascal_eq {s : Text} (hs : IsWord s) :
    snakeToPascalCase U s = (parts s).flatMap capitalize := by
  have hword : ∀ w ∈ s.splitOn '_', pascalWord U w = capitalize (w.map Char.toLower) :=
    fun w hw => pascalWord_eq fun c hc => hs c (mem_splitOn hw hc).1
  rw [snakeToPascalCase, List.flatMap_congr hword, parts, List.flatMap_map]
  induction s.splitOn '_' with
  | nil => rfl
  | cons w ws ih =>
      cases w with
      | nil => simpa [capitalize] using ih
      | cons c cs => simpa using ih

theorem ItemKind.suffix_eq (kind : ItemKind) :
    kind.suffix = kind.parts.flatMap capitalize := by
  cases kind <;> decide

/-! ## Small letters -/

theorem isSmall_lt {c : Char} (h : isSmall c = true) : c.toNat < 128 := by
  refine isWordChar_lt ?_
  rw [isSmall, Bool.or_eq_true] at h
  show (c.isUpper || c.isLower || c.isDigit || c == '_') = true
  rcases h with h | h <;> simp [h]

theorem toUpper_of_isDigit {c : Char} (h : isSmall c = true) (hd : c.isDigit = true) :
    c.toUpper = c :=
  forall_ascii (P := fun c => c.isDigit = true → c.toUpper = c) (by decide)
    (isSmall_lt h) hd

theorem isUpper_of_isSmall {c : Char} (h : isSmall c = true) : c.isUpper = false :=
  forall_ascii (P := fun c => isSmall c = true → c.isUpper = false) (by decide)
    (isSmall_lt h) h

theorem isUpper_toUpper {c : Char} (h : isSmall c = true) (hd : ¬ c.isDigit = true) :
    c.toUpper.isUpper = true :=
  forall_ascii (P := fun c => isSmall c = true → ¬ c.isDigit = true →
    c.toUpper.isUpper = true) (by decide) (isSmall_lt h) h hd

theorem toUpper_injective {c d : Char} (hc : isSmall c = true) (hd : isSmall d = true)
    (h : c.toUpper = d.toUpper) : c = d := by
  have hback : ∀ {c : Char}, isSmall c = true → c.toUpper.toLower = c := fun hc =>
    forall_ascii (P := fun c => isSmall c = true → c.toUpper.toLower = c) (by decide)
      (isSmall_lt hc) hc
  rw [← hback hc, h, hback hd]

/-! ## Glued parts -/

/-- Words as `glue` leaves them: every one but the first begins with a letter. -/
structure AreWords (ws : List Text) : Prop where
  part : ∀ w ∈ ws, IsPart w
  letter : ∀ w ∈ ws.tail, ¬ DigitFirst w

theorem IsPart.append {w v : Text} (hw : IsPart w) (hv : IsPart v) : IsPart (w ++ v) :=
  ⟨List.append_ne_nil_of_left_ne_nil hw.1 v, List.forall_mem_append.mpr ⟨hw.2, hv.2⟩⟩

theorem areWords_glue : ∀ {ws : List Text}, (∀ w ∈ ws, IsPart w) → AreWords (glue ws) := by
  intro ws
  induction ws with
  | nil => exact fun _ => ⟨nofun, nofun⟩
  | cons w ws ih =>
      intro h
      obtain ⟨hw, hws⟩ := List.forall_mem_cons.mp h
      have hglued := ih hws
      cases hg : glue ws with
      | nil =>
          simp only [glue, hg]
          exact ⟨List.forall_mem_singleton.mpr hw, nofun⟩
      | cons v vs =>
          rw [hg] at hglued
          obtain ⟨hv, hvs⟩ := List.forall_mem_cons.mp hglued.part
          by_cases hd : DigitFirst v
          · simp only [glue, hg, if_pos hd]
            exact ⟨List.forall_mem_cons.mpr ⟨hw.append hv, hvs⟩, hglued.letter⟩
          · simp only [glue, hg, if_neg hd]
            exact ⟨List.forall_mem_cons.mpr ⟨hw, hglued.part⟩,
              List.forall_mem_cons.mpr ⟨hd, hglued.letter⟩⟩

theorem capitalize_of_digitFirst {w : Text} (hw : IsPart w) (hd : DigitFirst w) :
    capitalize w = w := by
  cases w with
  | nil => rfl
  | cons c cs =>
      rw [capitalize, toUpper_of_isDigit (hw.2 c List.mem_cons_self) hd]

theorem capitalize_append {w : Text} (hw : w ≠ []) (v : Text) :
    capitalize (w ++ v) = capitalize w ++ v := by
  cases w with
  | nil => exact absurd rfl hw
  | cons c cs => rfl

/-- Gluing leaves the capitals where they were. -/
theorem flatMap_capitalize_glue :
    ∀ {ws : List Text}, (∀ w ∈ ws, IsPart w) →
      (glue ws).flatMap capitalize = ws.flatMap capitalize := by
  intro ws
  induction ws with
  | nil => exact fun _ => rfl
  | cons w ws ih =>
      intro h
      obtain ⟨hw, hws⟩ := List.forall_mem_cons.mp h
      rw [List.flatMap_cons, ← ih hws]
      have hglued := areWords_glue hws
      cases hg : glue ws with
      | nil =>
          simp only [glue, hg]
          rfl
      | cons v vs =>
          rw [hg] at hglued
          by_cases hd : DigitFirst v
          · simp only [glue, hg, if_pos hd]
            rw [List.flatMap_cons, List.flatMap_cons, capitalize_append hw.1,
              capitalize_of_digitFirst (hglued.part v List.mem_cons_self) hd,
              List.append_assoc]
          · simp only [glue, hg, if_neg hd]
            rfl

/-! ## The words from the name -/

/-- Two texts split before the first character of a kind split alike. -/
theorem append_inj_of_break {α : Type*} {p : α → Bool} {l l' r r' : List α}
    (hl : ∀ a ∈ l, p a = false) (hl' : ∀ a ∈ l', p a = false)
    (hr : r.head?.all p = true) (hr' : r'.head?.all p = true) (h : l ++ r = l' ++ r') :
    l = l' ∧ r = r' := by
  have hbefore : ∀ {l r : List α}, (∀ a ∈ l, p a = false) → r.head?.all p = true →
      (l ++ r).takeWhile (fun a => !p a) = l := by
    intro l r hl hr
    rw [List.takeWhile_append_of_pos fun a ha => by simp [hl a ha]]
    cases r with
    | nil => simp
    | cons b r => simp [show p b = true from hr]
  have hsame : l = l' := by rw [← hbefore hl hr, h, hbefore hl' hr']
  rw [hsame] at h
  exact ⟨hsame, List.append_cancel_left h⟩

/-- What follows the first word begins with a capital. -/
theorem head_flatMap_capitalize {ws : List Text} (hpart : ∀ w ∈ ws, IsPart w)
    (hletter : ∀ w ∈ ws, ¬ DigitFirst w) :
    (ws.flatMap capitalize).head?.all Char.isUpper = true := by
  cases ws with
  | nil => rfl
  | cons w ws =>
      have hw := hpart w List.mem_cons_self
      have hd := hletter w List.mem_cons_self
      cases w with
      | nil => exact absurd rfl hw.1
      | cons c cs => exact isUpper_toUpper (hw.2 c List.mem_cons_self) hd

theorem words_unique :
    ∀ {ws vs : List Text}, AreWords ws → AreWords vs →
      ws.flatMap capitalize = vs.flatMap capitalize → ws = vs := by
  have hnil : ∀ {w : Text} {ws : List Text}, AreWords (w :: ws) →
      (w :: ws).flatMap capitalize ≠ [] := by
    intro w ws h
    have hw := (h.part w List.mem_cons_self).1
    cases w with
    | nil => exact absurd rfl hw
    | cons c cs => exact List.cons_ne_nil _ _
  intro ws
  induction ws with
  | nil =>
      intro vs _ hvs h
      cases vs with
      | nil => rfl
      | cons v vs => exact absurd h.symm (hnil hvs)
  | cons w ws ih =>
      intro vs hws hvs h
      cases vs with
      | nil => exact absurd h (hnil hws)
      | cons v vs =>
          obtain ⟨hw, hpart⟩ := List.forall_mem_cons.mp hws.part
          obtain ⟨hv, hpart'⟩ := List.forall_mem_cons.mp hvs.part
          have hrest := head_flatMap_capitalize hpart hws.letter
          have hrest' := head_flatMap_capitalize hpart' hvs.letter
          cases w with
          | nil => exact absurd rfl hw.1
          | cons c cs =>
              cases v with
              | nil => exact absurd rfl hv.1
              | cons d ds =>
                  obtain ⟨hc, hcs⟩ := List.forall_mem_cons.mp hw.2
                  obtain ⟨hd, hds⟩ := List.forall_mem_cons.mp hv.2
                  rw [List.flatMap_cons, List.flatMap_cons, capitalize, capitalize,
                    List.cons_append, List.cons_append, List.cons.injEq] at h
                  obtain ⟨htail, hlater⟩ := append_inj_of_break
                    (fun a ha => isUpper_of_isSmall (hcs a ha))
                    (fun a ha => isUpper_of_isSmall (hds a ha)) hrest hrest' h.2
                  have hwords := ih ⟨hpart, fun u hu => hws.letter u (List.mem_of_mem_tail hu)⟩
                    ⟨hpart', fun u hu => hvs.letter u (List.mem_of_mem_tail hu)⟩ hlater
                  rw [toUpper_injective hc hd h.1, htail, hwords]

/-! ## Main result -/

theorem ItemKind.isPart_parts (kind : ItemKind) : ∀ w ∈ kind.parts, IsPart w := by
  cases kind with
  | enum => exact nofun
  | request => exact List.forall_mem_singleton.mpr ⟨by decide, List.all_eq_true.mp rfl⟩
  | event => exact List.forall_mem_singleton.mpr ⟨by decide, List.all_eq_true.mp rfl⟩

theorem Item.isPart_parts {item : Item} (hiface : IsWord item.interface)
    (hname : IsWord item.name) :
    ∀ w ∈ parts item.interface ++ parts item.name ++ item.kind.parts, IsPart w := by
  intro w hw
  rcases List.mem_append.mp hw with hw | hw
  · rcases List.mem_append.mp hw with hw | hw
    · exact isPart_of_mem_parts hiface hw
    · exact isPart_of_mem_parts hname hw
  · exact item.kind.isPart_parts w hw

/-- An item is named by its words, capitalised. -/
theorem Item.rustName_eq {item : Item} (hiface : IsWord item.interface)
    (hname : IsWord item.name) :
    item.rustName U = item.words.flatMap capitalize := by
  rw [Item.rustName, Item.words, flatMap_capitalize_glue (Item.isPart_parts hiface hname),
    List.flatMap_append, List.flatMap_append, pascal_eq hiface, pascal_eq hname,
    item.kind.suffix_eq]

/-- Two items of a well-formed description have different names exactly if they
differ in their words. -/
theorem rustName_ne_iff {p : Protocol} (hp : WellFormed p) {a b : Item}
    (ha : a ∈ p.items) (hb : b ∈ p.items) :
    a.rustName U ≠ b.rustName U ↔ a.words ≠ b.words := by
  obtain ⟨haiface, haname⟩ := hp.item ha
  obtain ⟨hbiface, hbname⟩ := hp.item hb
  rw [Item.rustName_eq haiface haname, Item.rustName_eq hbiface hbname]
  refine not_congr ⟨fun h => ?_, fun h => by rw [h]⟩
  exact words_unique (areWords_glue (Item.isPart_parts haiface haname))
    (areWords_glue (Item.isPart_parts hbiface hbname)) h

/-- Two interfaces with a request each. -/
def twoRequests (iface request iface' request' : String) : Protocol where
  interface :=
    [⟨iface.toList, some [⟨request.toList, none⟩], none, none⟩,
      ⟨iface'.toList, some [⟨request'.toList, none⟩], none, none⟩]

theorem rustName_ne_display_registry :
    Item.rustName asciiUnicode ⟨"wl_display".toList, .request, "sync".toList⟩ ≠
        Item.rustName asciiUnicode ⟨"wl_registry".toList, .request, "bind".toList⟩ ↔
      Item.words ⟨"wl_display".toList, .request, "sync".toList⟩ ≠
        Item.words ⟨"wl_registry".toList, .request, "bind".toList⟩ :=
  rustName_ne_iff (p := twoRequests "wl_display" "sync" "wl_registry" "bind") (by decide)
    (by decide) (by decide)

/-- The requests `b_c` of `a` and `c` of `a_b` are two structs of one name. -/
theorem rustName_collision :
    ∃ p a b, WellFormed p ∧ a ∈ p.items ∧ b ∈ p.items ∧ a ≠ b ∧
      a.rustName asciiUnicode = b.rustName asciiUnicode ∧
      (expand asciiUnicode p).map (fun code => code.structs.map StructItem.name) =
        some ["ABCRequest".toList, "ABCRequest".toList] :=
  ⟨twoRequests "a" "b_c" "a_b" "c", ⟨"a".toList, .request, "b_c".toList⟩,
    ⟨"a_b".toList, .request, "c".toList⟩, by decide, by decide, by decide, by decide,
    by decide, by decide⟩

end Scape.Wayland
