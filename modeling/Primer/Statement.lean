import Primer.Declaration

/-!
# Statements

A statement is blank, a comment or a declaration.  Its first characters tell its kind; the kinds
are tried in a fixed order, and only a declaration has anything more to be read.

## Main definitions

* `Primer.Statement` — a statement; `Primer.Kind` — its kind.
* `Primer.Kind.all` — the kinds in the order in which they are tried.
* `Primer.Kind.accepts` — whether a text looks like a statement of a kind.
* `Primer.Kind.of?` — the kind of a text.
* `Primer.Kind.read` — reads a text as a statement of a kind.
-/

set_option relaxedAutoImplicit false
set_option autoImplicit false

namespace Primer

/-- A statement. -/
inductive Statement where
  | blank
  | comment
  | declaration (d : Declaration)
deriving DecidableEq, Repr

/-- The kinds of statements. -/
inductive Kind where
  | blank
  | comment
  | declaration
deriving DecidableEq, Repr

/-- The kind of a statement. -/
def Statement.kind : Statement → Kind
  | .blank => .blank
  | .comment => .comment
  | .declaration _ => .declaration

namespace Kind

/-- The name of a kind. -/
def name : Kind → Text
  | .blank => "blank".toList
  | .comment => "comment".toList
  | .declaration => "declaration".toList

/-- All kinds, in the order in which they are tried. -/
def all : List Kind := [.blank, .comment, .declaration]

/-- Whether a text looks like a statement of a kind. -/
def accepts : Kind → Text → Bool
  | .blank, t => t.isEmpty
  | .comment, t => ['#'].isPrefixOf t
  | .declaration, t => Declaration.keyword.isPrefixOf t

/-- The first kind that a text looks like. -/
def of? (t : Text) : Option Kind := all.find? (·.accepts t)

/-- Reads a text that looks like a statement of a kind. -/
def read (k : Kind) (t : Text) : Except (Misread Declaration) Statement :=
  match k with
  | .blank => .ok .blank
  | .comment => .ok .comment
  | .declaration => (Declaration.parse t).map .declaration

end Kind

end Primer
