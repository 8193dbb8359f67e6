import Mathlib.Algebra.Group.Nat.Defs
import Scape.Lib.Numeral

/-!
# Protocol descriptions

What `schema.rs` deserialises a Wayland XML file into, as far as the generator
reads it: the summaries, texts, versions and `since` marks are left out. A text
is a list of characters.

`WellFormed` is what the protocol format asks of names and types. A name that
stands alone begins with a letter or an underscore; the name of an enum or of an
entry is only ever a part of a longer one and may begin with a digit.
-/

namespace Scape.Wayland

abbrev Text := List Char

/-- `RequestArg` and `EventArg`, which have the same fields. -/
structure Arg where
  name : Text
  argType : Text
  interface : Option Text
  allowNull : Option Bool
  deriving DecidableEq, Repr

/-- `Request` and `Event`. -/
structure Message where
  name : Text
  arg : Option (List Arg)
  deriving DecidableEq, Repr

structure Entry where
  name : Text
  value : Text
  deriving DecidableEq, Repr

structure Enum where
  name : Text
  entry : List Entry
  deriving DecidableEq, Repr

structure Interface where
  name : Text
  request : Option (List Message)
  event : Option (List Message)
  interfaceEnum : Option (List Enum)
  deriving DecidableEq, Repr

structure Protocol where
  interface : List Interface
  deriving DecidableEq, Repr

namespace Interface

def requests (i : Interface) : List Message := i.request.getD []

def events (i : Interface) : List Message := i.event.getD []

def enums (i : Interface) : List Enum := i.interfaceEnum.getD []

end Interface

def Message.args (m : Message) : List Arg := m.arg.getD []

/-- The enums of all interfaces, in the order of the file. -/
def Protocol.enums (p : Protocol) : List Enum := p.interface.flatMap Interface.enums

/-! ## Well-formed descriptions -/

def isWordChar (c : Char) : Bool := c.isAlphanum || c == '_'

/-- Letters, digits and underscores. -/
def IsWord (s : Text) : Prop := ∀ c ∈ s, isWordChar c = true

def DigitFirst (s : Text) : Prop := s.head?.any Char.isDigit = true

/-- A part of a name: a word that is not empty. -/
def TrailingName (name : Text) : Prop := name ≠ [] ∧ IsWord name

/-- A name that stands alone. -/
def StandaloneName (name : Text) : Prop := TrailingName name ∧ ¬ DigitFirst name

instance (s : Text) : Decidable (IsWord s) := List.decidableBAll _ _

instance (s : Text) : Decidable (DigitFirst s) := inferInstanceAs (Decidable (_ = true))

instance (name : Text) : Decidable (TrailingName name) :=
  inferInstanceAs (Decidable (_ ∧ _))

instance (name : Text) : Decidable (StandaloneName name) :=
  inferInstanceAs (Decidable (_ ∧ _))

def argTypes : List Text :=
  ["int".toList, "uint".toList, "fixed".toList, "string".toList, "object".toList,
    "new_id".toList, "array".toList, "fd".toList]

/-- Only objects name an interface. -/
structure Arg.WellFormed (a : Arg) : Prop where
  name : StandaloneName a.name
  type : a.argType ∈ argTypes
  interface : ∀ i ∈ a.interface, StandaloneName i ∧
    (a.argType = "object".toList ∨ a.argType = "new_id".toList)

structure Message.WellFormed (m : Message) : Prop where
  name : StandaloneName m.name
  args : ∀ a ∈ m.args, a.WellFormed

structure Enum.WellFormed (e : Enum) : Prop where
  name : TrailingName e.name
  entries : ∀ entry ∈ e.entry, TrailingName entry.name

structure Interface.WellFormed (i : Interface) : Prop where
  name : StandaloneName i.name
  requests : ∀ m ∈ i.requests, m.WellFormed
  events : ∀ m ∈ i.events, m.WellFormed
  enums : ∀ e ∈ i.enums, e.WellFormed

def WellFormed (p : Protocol) : Prop := ∀ i ∈ p.interface, i.WellFormed

instance (a : Arg) : Decidable a.WellFormed :=
  decidable_of_iff (StandaloneName a.name ∧ a.argType ∈ argTypes ∧
      ∀ i ∈ a.interface, StandaloneName i ∧
        (a.argType = "object".toList ∨ a.argType = "new_id".toList))
    ⟨fun ⟨hname, htype, hiface⟩ => ⟨hname, htype, hiface⟩,
      fun h => ⟨h.name, h.type, h.interface⟩⟩

instance (m : Message) : Decidable m.WellFormed :=
  decidable_of_iff (StandaloneName m.name ∧ ∀ a ∈ m.args, a.WellFormed)
    ⟨fun ⟨hname, hargs⟩ => ⟨hname, hargs⟩, fun h => ⟨h.name, h.args⟩⟩

instance (e : Enum) : Decidable e.WellFormed :=
  decidable_of_iff (TrailingName e.name ∧ ∀ entry ∈ e.entry, TrailingName entry.name)
    ⟨fun ⟨hname, hentries⟩ => ⟨hname, hentries⟩, fun h => ⟨h.name, h.entries⟩⟩

instance (i : Interface) : Decidable i.WellFormed :=
  decidable_of_iff (StandaloneName i.name ∧ (∀ m ∈ i.requests, m.WellFormed) ∧
      (∀ m ∈ i.events, m.WellFormed) ∧ ∀ e ∈ i.enums, e.WellFormed)
    ⟨fun ⟨hname, hrequests, hevents, henums⟩ => ⟨hname, hrequests, hevents, henums⟩,
      fun h => ⟨h.name, h.requests, h.events, h.enums⟩⟩

instance (p : Protocol) : Decidable (WellFormed p) :=
  inferInstanceAs (Decidable (∀ _ ∈ _, _))

/-! ## Literals -/

/-- The value of an unsigned literal of the format: decimal, or hexadecimal after
`0x`. -/
def literalValue (literal : Text) : Option Nat :=
  match literal with
  | '0' :: 'x' :: digits =>
      if digits = [] then none else Numeral.value Numeral.hexDigit 16 0 digits
  | digits =>
      if digits = [] then none else Numeral.value Numeral.decimalDigit 10 0 digits

def ValidLiteral (literal : Text) : Prop := ∃ v ∈ literalValue literal, v < 2 ^ 32

def IsDecimal (literal : Text) : Prop := ∀ c ∈ literal, c.isDigit = true

instance (literal : Text) : Decidable (IsDecimal literal) := List.decidableBAll _ _

end Scape.Wayland
