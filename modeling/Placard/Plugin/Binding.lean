/-
# Bindings

A plugin may take some of its fields from the values of a request.  Its declaration names for each
such field the key that the value stands under; the letter case of either does not matter, so that
one field may be named more than once, and then the last entry counts.
-/
import Placard.Plugin.Values

namespace Placard

/-- Fields of a plugin and the keys that their values stand under, in the order in which they are
put. -/
structure Binding (φ : Type) where
  entries : List (φ × String)

namespace Binding

def empty {φ : Type} : Binding φ := ⟨[]⟩

/-- Nothing is taken from a request. -/
def isEmpty {φ : Type} (b : Binding φ) : Bool := b.entries.isEmpty

def entry {φ : Type} (kind : PluginKind) (field? : String → Option φ) (declared : String × String) :
    Except ConfigError (φ × String) :=
  let name := Text.lower declared.1
  match field? name with
  | some field => .ok (field, Text.lower declared.2)
  | none => .error (.unknownBinding kind name)

/-- The binding that a plugin declares; `field?` knows the fields that can be bound. -/
def ofDeclared {φ : Type} (kind : PluginKind) (field? : String → Option φ)
    (declared : List (String × String)) : Except ConfigError (Binding φ) :=
  (declared.mapM (entry kind field?)).map mk

end Binding

/-- A plugin on its way through the entries of its binding, and whether one has changed it. -/
structure Change (σ : Type) where
  state : σ
  changed : Bool

/-- Puts a value in the place of an old one, and notes whether they differ. -/
def Change.put {α σ : Type} [BEq α] (c : Change σ) (old : σ → α) (set : σ → α → σ) (value : α) :
    Change σ :=
  if old c.state == value then c else ⟨set c.state value, true⟩

/-- The outcome of a binding: none if nothing has changed. -/
def Change.result? {σ : Type} (c : Change σ) : Option σ := if c.changed then some c.state else none

end Placard
