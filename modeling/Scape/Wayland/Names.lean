import Mathlib.Data.List.Basic
import Scape.Lib.Traverse
import Scape.Wayland.Macro

/-!
# The names of an expansion, read off its description

The generator computes each name from the description alone and stops at the
first that is no identifier. So the whole expansion has three things to say
about names, and each can be said of the description: which names are formed,
which of them are types, and which types the arguments mention.

The theorems here are equalities of lists. Whatever is asked of the names of an
expansion can be asked of the description instead, and an expansion exists
exactly when all of its names pass.
-/

namespace Scape.Wayland

open Traverse

/-! ## The names -/

def Arg.IsObject (a : Arg) : Prop :=
  a.argType = "object".toList ∨ a.argType = "new_id".toList

instance (a : Arg) : Decidable a.IsObject := inferInstanceAs (Decidable (_ ∨ _))

/-- The type an argument mentions, unless it is a built-in one. -/
def Arg.typeName (U : Unicode) (a : Arg) : Option Text :=
  if a.IsObject then some (a.interface.elim "ObjectId".toList (objectName U)) else none

def Arg.idents (U : Unicode) (a : Arg) : List Text := a.name :: (a.typeName U).toList

namespace Interface

variable (U : Unicode)

def messages (i : Interface) : List Message := i.requests ++ i.events

def args (i : Interface) : List Arg := i.messages.flatMap Message.args

def enumName (i : Interface) (e : Enum) : Text :=
  snakeToPascalCase U i.name ++ snakeToPascalCase U e.name

def structName (suffix : Text) (i : Interface) (m : Message) : Text :=
  snakeToPascalCase U i.name ++ snakeToPascalCase U m.name ++ suffix

def enumIdents (i : Interface) : List Text :=
  i.enums.flatMap fun e => i.enumName U e :: e.entry.map fun entry => U.upper entry.name

def structNames (i : Interface) : List Text :=
  i.requests.map (i.structName U "Request".toList) ++
    i.events.map (i.structName U "Event".toList)

end Interface

namespace Protocol

variable (U : Unicode)

def args (p : Protocol) : List Arg := p.interface.flatMap Interface.args

/-- Every identifier the expansion will have. -/
def idents (p : Protocol) : List Text :=
  p.interface.flatMap (Interface.enumIdents U) ++
    p.interface.flatMap (Interface.structNames U) ++
    p.args.flatMap (Arg.idents U)

def defined (p : Protocol) : List Text :=
  "ObjectId".toList ::
    p.interface.flatMap (fun i => i.enums.map (i.enumName U)) ++
    p.interface.flatMap (Interface.structNames U)

end Protocol

/-! ## Identifiers of ASCII -/

variable {U : Unicode}

theorem forall_ascii {P : Char → Prop} (h : ∀ n < 128, P (Char.ofNat n)) {c : Char}
    (hc : c.toNat < 128) : P c := by
  have := h c.toNat hc
  rwa [Char.ofNat_toNat] at this

theorem isWordChar_lt {c : Char} (h : isWordChar c = true) : c.toNat < 128 := by
  have hle : ∀ d : Char, d.toNat < 128 → c.val ≤ d.val → c.toNat < 128 := fun d hd hcd =>
    Nat.lt_of_le_of_lt (UInt32.le_iff_toNat_le.mp hcd) hd
  have hupper : c.isUpper = true → c.toNat < 128 := fun hc =>
    hle 'Z' (by decide) (of_decide_eq_true hc).2
  have hlower : c.isLower = true → c.toNat < 128 := fun hc =>
    hle 'z' (by decide) (of_decide_eq_true ((Bool.and_eq_true _ _).mp hc).2)
  have hdigit : c.isDigit = true → c.toNat < 128 := fun hc =>
    hle '9' (by decide) (of_decide_eq_true ((Bool.and_eq_true _ _).mp hc).2)
  rcases (Bool.or_eq_true _ _).mp h with h | h
  · rcases (Bool.or_eq_true _ _).mp h with h | h
    · rcases (Bool.or_eq_true _ _).mp h with h | h
      · exact hupper h
      · exact hlower h
    · exact hdigit h
  · rw [beq_iff_eq.mp h]
    decide

/-- A word is an identifier unless it is empty or begins with a digit. -/
theorem isIdent_iff {s : Text} (hs : IsWord s) :
    isIdent U s = true ↔ s ≠ [] ∧ ¬ DigitFirst s := by
  cases s with
  | nil => simp [isIdent]
  | cons c cs =>
      obtain ⟨hc, hcs⟩ := List.forall_mem_cons.mp hs
      have hstart : (U.xidStart c || c == '_') = true ↔ ¬ c.isDigit = true := by
        rw [U.xidStart_ascii c (isWordChar_lt hc)]
        exact forall_ascii (P := fun c => isWordChar c = true →
          ((c.isAlpha || c == '_') = true ↔ ¬ c.isDigit = true)) (by decide)
          (isWordChar_lt hc) hc
      have hrest : cs.all U.xidContinue = true := by
        rw [List.all_eq_true]
        intro d hd
        rw [U.xidContinue_ascii d (isWordChar_lt (hcs d hd)), hcs d hd]
      rw [isIdent, hrest, Bool.and_true, hstart]
      exact (and_iff_right (List.cons_ne_nil c cs)).symm

theorem isIdent_objectId : isIdent U "ObjectId".toList = true :=
  (isIdent_iff (by decide)).mpr (by decide)

/-! ## One function at a time -/

theorem identNew_eq_some_iff {name ident : Text} :
    identNew U name = some ident ↔ isIdent U name = true ∧ ident = name := by
  rw [identNew, Option.ite_none_right_eq_some, Option.some.injEq, eq_comm (a := name)]

theorem baseType_of_object {a : Arg} (h : a.IsObject) :
    baseType U a.argType a.interface = objectType U a.interface := by
  rcases h with h | h <;> rw [h] <;> rfl

theorem baseType_of_not_object {a : Arg} (h : ¬ a.IsObject) :
    ∃ type, baseType U a.argType a.interface = some type ∧ type.name? = none := by
  obtain ⟨hobject, hnew⟩ := not_or.mp h
  unfold baseType
  rw [if_neg hobject, if_neg hnew]
  split_ifs <;> exact ⟨_, rfl, rfl⟩

/-- A type is spelled out unless it names an interface whose object type is no
identifier. -/
theorem baseType_eq_some_iff {a : Arg} :
    (∃ type, baseType U a.argType a.interface = some type) ↔
      ∀ name ∈ (a.typeName U).toList, isIdent U name = true := by
  by_cases h : a.IsObject
  · rw [baseType_of_object h, Arg.typeName, if_pos h]
    cases a.interface with
    | none =>
        refine iff_of_true ⟨_, rfl⟩ fun name hname => ?_
        rw [List.mem_singleton.mp hname]
        exact isIdent_objectId
    | some iface => simp [objectType, identNew_eq_some_iff]
  · obtain ⟨type, htype, -⟩ := baseType_of_not_object (U := U) h
    simp [htype, Arg.typeName, h]

theorem baseType_name? {a : Arg} {type : RustType}
    (h : baseType U a.argType a.interface = some type) : type.name? = a.typeName U := by
  by_cases ha : a.IsObject
  · rw [baseType_of_object ha] at h
    rw [Arg.typeName, if_pos ha]
    cases hi : a.interface with
    | none =>
        rw [hi] at h
        cases h
        rfl
    | some iface =>
        rw [hi, objectType, Option.map_eq_some_iff] at h
        obtain ⟨ident, hident, rfl⟩ := h
        obtain ⟨-, rfl⟩ := identNew_eq_some_iff.mp hident
        rfl
  · obtain ⟨type', htype, hname⟩ := baseType_of_not_object (U := U) ha
    rw [htype, Option.some.injEq] at h
    rw [← h, hname, Arg.typeName, if_neg ha]

theorem generateField_isSome_iff {a : Arg} :
    (∃ field, generateField U a = some field) ↔
      ∀ name ∈ a.idents U, isIdent U name = true := by
  rw [Arg.idents, List.forall_mem_cons, ← baseType_eq_some_iff]
  simp only [generateField, rustTypeFromWaylandType, Option.bind_eq_bind,
    Option.bind_eq_some_iff, identNew_eq_some_iff, Option.pure_def, Option.some.injEq]
  constructor
  · rintro ⟨_, _, ⟨hname, -⟩, _, ⟨type, htype, -⟩, -⟩
    exact ⟨hname, type, htype⟩
  · rintro ⟨hname, type, htype⟩
    exact ⟨_, _, ⟨hname, rfl⟩, _, ⟨type, htype, rfl⟩, rfl⟩

theorem generateField_idents {a : Arg} {field : Field}
    (h : generateField U a = some field) :
    field.name = a.name ∧ field.type.name? = a.typeName U := by
  simp only [generateField, rustTypeFromWaylandType, Option.bind_eq_bind,
    Option.bind_eq_some_iff, identNew_eq_some_iff, Option.pure_def, Option.some.injEq] at h
  obtain ⟨_, ⟨-, rfl⟩, _, ⟨base, hbase, rfl⟩, rfl⟩ := h
  refine ⟨rfl, ?_⟩
  rw [← baseType_name? hbase]
  cases a.allowNull.getD false <;> rfl

theorem generateStruct_isSome_iff {suffix interfaceName : Text} {opcode : Nat}
    {m : Message} :
    (∃ item, generateStruct U suffix interfaceName opcode m = some item) ↔
      isIdent U (interfaceName ++ snakeToPascalCase U m.name ++ suffix) = true ∧
      ∀ a ∈ m.args, ∀ name ∈ a.idents U, isIdent U name = true := by
  simp only [← generateField_isSome_iff]
  rw [← mapM_isSome_iff]
  simp only [generateStruct, Option.bind_eq_bind, Option.bind_eq_some_iff,
    identNew_eq_some_iff, Option.pure_def, Option.some.injEq]
  constructor
  · rintro ⟨_, _, ⟨hname, -⟩, fields, hfields, -⟩
    exact ⟨hname, fields, hfields⟩
  · rintro ⟨hname, fields, hfields⟩
    exact ⟨_, _, ⟨hname, rfl⟩, fields, hfields, rfl⟩

theorem generateStruct_eq_some {suffix interfaceName : Text} {opcode : Nat} {m : Message}
    {item : StructItem}
    (h : generateStruct U suffix interfaceName opcode m = some item) :
    item.name = interfaceName ++ snakeToPascalCase U m.name ++ suffix ∧
    m.args.mapM (generateField U) = some item.fields := by
  simp only [generateStruct, Option.bind_eq_bind, Option.bind_eq_some_iff,
    identNew_eq_some_iff, Option.pure_def, Option.some.injEq] at h
  obtain ⟨_, ⟨-, rfl⟩, fields, hfields, rfl⟩ := h
  exact ⟨rfl, hfields⟩

theorem generateEntry_isSome_iff {entry : Entry} :
    (∃ variant, generateEntry U entry = some variant) ↔
      isIdent U (U.upper entry.name) = true := by
  simp only [generateEntry, Option.bind_eq_bind, Option.bind_eq_some_iff,
    identNew_eq_some_iff, Option.pure_def, Option.some.injEq]
  exact ⟨fun ⟨_, _, ⟨h, _⟩, _⟩ => h, fun h => ⟨_, _, ⟨h, rfl⟩, rfl⟩⟩

theorem generateEntry_name {entry : Entry} {variant : Text × Nat}
    (h : generateEntry U entry = some variant) : variant.1 = U.upper entry.name := by
  simp only [generateEntry, Option.bind_eq_bind, Option.bind_eq_some_iff,
    identNew_eq_some_iff, Option.pure_def, Option.some.injEq] at h
  obtain ⟨_, ⟨-, rfl⟩, rfl⟩ := h
  rfl

theorem generateEnum_isSome_iff {interfaceName : Text} {e : Enum} :
    (∃ item, generateEnum U interfaceName e = some item) ↔
      isIdent U (interfaceName ++ snakeToPascalCase U e.name) = true ∧
      ∀ entry ∈ e.entry, isIdent U (U.upper entry.name) = true := by
  simp only [← generateEntry_isSome_iff]
  rw [← mapM_isSome_iff]
  simp only [generateEnum, Option.bind_eq_bind, Option.bind_eq_some_iff,
    identNew_eq_some_iff, Option.pure_def, Option.some.injEq]
  constructor
  · rintro ⟨_, _, ⟨hname, -⟩, entries, hentries, -⟩
    exact ⟨hname, entries, hentries⟩
  · rintro ⟨hname, entries, hentries⟩
    exact ⟨_, _, ⟨hname, rfl⟩, entries, hentries, rfl⟩

theorem generateEnum_eq_some {interfaceName : Text} {e : Enum} {item : EnumItem}
    (h : generateEnum U interfaceName e = some item) :
    item.name = interfaceName ++ snakeToPascalCase U e.name ∧
    item.entries.map Prod.fst = e.entry.map fun entry => U.upper entry.name := by
  simp only [generateEnum, Option.bind_eq_bind, Option.bind_eq_some_iff,
    identNew_eq_some_iff, Option.pure_def, Option.some.injEq] at h
  obtain ⟨_, ⟨-, rfl⟩, entries, hentries, rfl⟩ := h
  exact ⟨rfl, map_of_mapM hentries fun _ _ => generateEntry_name⟩

/-! ## One interface -/

def generateStructs (U : Unicode) (suffix : Text) (i : Interface) (l : List Message) :
    Option (List StructItem) :=
  l.zipIdx.mapM fun p => generateStruct U suffix (snakeToPascalCase U i.name) p.2 p.1

theorem generateStructs_isSome_iff {suffix : Text} {i : Interface} {l : List Message} :
    (∃ items, generateStructs U suffix i l = some items) ↔
      ∀ m ∈ l, isIdent U (i.structName U suffix m) = true ∧
        ∀ a ∈ m.args, ∀ name ∈ a.idents U, isIdent U name = true :=
  mapM_zipIdx_isSome_iff fun _ => generateStruct_isSome_iff

theorem generateStructs_names {suffix : Text} {i : Interface} {l : List Message}
    {items : List StructItem} (h : generateStructs U suffix i l = some items) :
    items.map StructItem.name = l.map (i.structName U suffix) :=
  map_of_mapM_zipIdx h fun _ _ hitem => (generateStruct_eq_some hitem).1

/-- A list computed from the fields of all the structs is computed from the
arguments. -/
theorem generateStructs_fields {γ : Type*} {suffix : Text} {i : Interface}
    {l : List Message} {items : List StructItem} {g : Field → List γ} {h : Arg → List γ}
    (hitems : generateStructs U suffix i l = some items)
    (hf : ∀ a field, generateField U a = some field → g field = h a) :
    (items.flatMap StructItem.fields).flatMap g = (l.flatMap Message.args).flatMap h := by
  rw [List.flatMap_assoc, List.flatMap_assoc]
  exact flatMap_of_mapM_zipIdx hitems fun _ _ hitem =>
    flatMap_of_mapM (generateStruct_eq_some hitem).2 hf

theorem generateInterfaceCode_eq_some_iff {i : Interface} {icode : InterfaceCode} :
    generateInterfaceCode U i = some icode ↔
      isIdent U (snakeToPascalCase U i.name) = true ∧
      i.enums.mapM (generateEnum U (snakeToPascalCase U i.name)) = some icode.enums ∧
      generateStructs U "Request".toList i i.requests = some icode.requests ∧
      generateStructs U "Event".toList i i.events = some icode.events := by
  simp only [generateInterfaceCode, Option.bind_eq_bind, Option.bind_eq_some_iff,
    identNew_eq_some_iff, Option.pure_def, Option.some.injEq]
  constructor
  · rintro ⟨_, ⟨hname, rfl⟩, enums, henums, requests, hrequests, events, hevents, rfl⟩
    exact ⟨hname, henums, hrequests, hevents⟩
  · rintro ⟨hname, henums, hrequests, hevents⟩
    exact ⟨_, ⟨hname, rfl⟩, _, henums, _, hrequests, _, hevents, rfl⟩

theorem generateInterfaceCode_isSome_iff {i : Interface} :
    (∃ icode, generateInterfaceCode U i = some icode) ↔
      isIdent U (snakeToPascalCase U i.name) = true ∧
      (∀ name ∈ i.enumIdents U, isIdent U name = true) ∧
      (∀ name ∈ i.structNames U, isIdent U name = true) ∧
      ∀ a ∈ i.args, ∀ name ∈ a.idents U, isIdent U name = true := by
  have henums : (∃ items, i.enums.mapM (generateEnum U (snakeToPascalCase U i.name)) =
      some items) ↔ ∀ name ∈ i.enumIdents U, isIdent U name = true := by
    rw [mapM_isSome_iff]
    simp only [generateEnum_isSome_iff, Interface.enumIdents, Interface.enumName,
      List.forall_mem_flatMap, List.forall_mem_cons, List.forall_mem_map]
  have hstructs : ((∀ name ∈ i.structNames U, isIdent U name = true) ∧
      ∀ a ∈ i.args, ∀ name ∈ a.idents U, isIdent U name = true) ↔
        (∀ m ∈ i.requests, isIdent U (i.structName U "Request".toList m) = true ∧
          ∀ a ∈ m.args, ∀ name ∈ a.idents U, isIdent U name = true) ∧
        ∀ m ∈ i.events, isIdent U (i.structName U "Event".toList m) = true ∧
          ∀ a ∈ m.args, ∀ name ∈ a.idents U, isIdent U name = true := by
    simp only [Interface.structNames, Interface.args, Interface.messages,
      List.forall_mem_append, List.forall_mem_flatMap, List.forall_mem_map, forall_and]
    exact and_and_and_comm
  rw [hstructs, ← henums, ← generateStructs_isSome_iff, ← generateStructs_isSome_iff]
  simp only [generateInterfaceCode_eq_some_iff]
  constructor
  · rintro ⟨icode, hname, henum, hrequest, hevent⟩
    exact ⟨hname, ⟨_, henum⟩, ⟨_, hrequest⟩, ⟨_, hevent⟩⟩
  · rintro ⟨hname, ⟨enums, henum⟩, ⟨requests, hrequest⟩, ⟨events, hevent⟩⟩
    exact ⟨⟨enums, requests, events⟩, hname, henum, hrequest, hevent⟩

section

variable {i : Interface} {icode : InterfaceCode} (h : generateInterfaceCode U i = some icode)
include h

theorem generateInterfaceCode_enumIdents :
    icode.enums.flatMap (fun e => e.name :: e.entries.map Prod.fst) = i.enumIdents U := by
  obtain ⟨-, henums, -, -⟩ := generateInterfaceCode_eq_some_iff.mp h
  refine flatMap_of_mapM henums fun e item he => ?_
  rw [(generateEnum_eq_some he).1, (generateEnum_eq_some he).2, Interface.enumName]

theorem generateInterfaceCode_enumNames :
    icode.enums.map EnumItem.name = i.enums.map (i.enumName U) := by
  obtain ⟨-, henums, -, -⟩ := generateInterfaceCode_eq_some_iff.mp h
  exact map_of_mapM henums fun e item he => (generateEnum_eq_some he).1

theorem generateInterfaceCode_structNames :
    (icode.requests ++ icode.events).map StructItem.name = i.structNames U := by
  obtain ⟨-, -, hrequests, hevents⟩ := generateInterfaceCode_eq_some_iff.mp h
  rw [List.map_append, generateStructs_names hrequests, generateStructs_names hevents,
    Interface.structNames]

theorem generateInterfaceCode_fields {γ : Type*} {g : Field → List γ} {k : Arg → List γ}
    (hf : ∀ a field, generateField U a = some field → g field = k a) :
    ((icode.requests ++ icode.events).flatMap StructItem.fields).flatMap g =
      i.args.flatMap k := by
  obtain ⟨-, -, hrequests, hevents⟩ := generateInterfaceCode_eq_some_iff.mp h
  rw [List.flatMap_append, List.flatMap_append, generateStructs_fields hrequests hf,
    generateStructs_fields hevents hf, ← List.flatMap_append, ← List.flatMap_append]
  rfl

end

/-! ## The whole expansion -/

/-- An expansion exists exactly when every name it forms passes. -/
theorem expand_isSome_iff {p : Protocol} :
    (∃ code, expand U p = some code) ↔
      (∀ i ∈ p.interface, isIdent U (snakeToPascalCase U i.name) = true) ∧
      ∀ name ∈ p.idents U, isIdent U name = true := by
  have hinterfaces : (∃ code, expand U p = some code) ↔
      ∃ icodes, p.interface.mapM (generateInterfaceCode U) = some icodes := by
    simp only [expand, Option.bind_eq_bind, Option.bind_eq_some_iff, Option.pure_def,
      Option.some.injEq]
    exact ⟨fun ⟨_, icodes, h, _⟩ => ⟨icodes, h⟩, fun ⟨icodes, h⟩ => ⟨_, icodes, h, rfl⟩⟩
  rw [hinterfaces, mapM_isSome_iff]
  simp only [generateInterfaceCode_isSome_iff, forall_and, Protocol.idents, Protocol.args,
    List.forall_mem_append, List.forall_mem_flatMap, and_assoc]

section

variable {p : Protocol} {code : Code} (h : expand U p = some code)
include h

theorem expand_interfaces :
    p.interface.mapM (generateInterfaceCode U) = some code.interfaces := by
  simp only [expand, Option.bind_eq_bind, Option.bind_eq_some_iff, Option.pure_def,
    Option.some.injEq] at h
  obtain ⟨icodes, hicodes, rfl⟩ := h
  exact hicodes

theorem expand_structNames :
    code.structs.map StructItem.name = p.interface.flatMap (Interface.structNames U) := by
  rw [Code.structs, List.map_flatMap]
  exact flatMap_of_mapM (expand_interfaces h) fun _ _ => generateInterfaceCode_structNames

theorem expand_fields {γ : Type*} {g : Field → List γ} {k : Arg → List γ}
    (hf : ∀ a field, generateField U a = some field → g field = k a) :
    code.fields.flatMap g = p.args.flatMap k := by
  rw [Code.fields, Code.structs, Protocol.args, List.flatMap_assoc, List.flatMap_assoc,
    List.flatMap_assoc]
  refine flatMap_of_mapM (expand_interfaces h) fun i icode hi => ?_
  rw [← List.flatMap_assoc]
  exact generateInterfaceCode_fields hi hf

/-- The identifiers of the expansion are the names formed. -/
theorem expand_idents : code.idents = p.idents U := by
  have henums : code.enums.flatMap (fun e => e.name :: e.entries.map Prod.fst) =
      p.interface.flatMap (Interface.enumIdents U) := by
    rw [Code.enums, List.flatMap_assoc]
    exact flatMap_of_mapM (expand_interfaces h) fun _ _ => generateInterfaceCode_enumIdents
  rw [Code.idents, Protocol.idents, henums, expand_structNames h]
  congr 1
  refine expand_fields h fun a field ha => ?_
  rw [(generateField_idents ha).1, (generateField_idents ha).2, Arg.idents]

theorem expand_defined : code.defined = p.defined U := by
  have henums : code.enums.map EnumItem.name =
      p.interface.flatMap fun i => i.enums.map (i.enumName U) := by
    rw [Code.enums, List.map_flatMap]
    exact flatMap_of_mapM (expand_interfaces h) fun _ _ => generateInterfaceCode_enumNames
  rw [Code.defined, Protocol.defined, henums, expand_structNames h]

theorem expand_closed_iff :
    code.Closed ↔ ∀ a ∈ p.args, ∀ name ∈ a.typeName U, name ∈ p.defined U := by
  have htypes : code.fields.flatMap (fun field => field.type.name?.toList) =
      p.args.flatMap fun a => (a.typeName U).toList :=
    expand_fields h fun a field ha => by rw [(generateField_idents ha).2]
  have hmem : (∀ name ∈ code.fields.flatMap (fun field => field.type.name?.toList),
      name ∈ p.defined U) ↔
        ∀ name ∈ p.args.flatMap (fun a => (a.typeName U).toList), name ∈ p.defined U := by
    rw [htypes]
  simpa only [Code.Closed, expand_defined h, List.forall_mem_flatMap, Option.mem_toList,
    Option.mem_def] using hmem

end

end Scape.Wayland
