import SourceMacros.Proofs.Text.Trim
import SourceMacros.TypeDescriptor

/-! The texts that describe a type, with blanks around its names and brackets and after its question marks.
The text that is written for a type describes it just where its custom names are names,
`TypeDescriptor.spelled_written_iff`. -/

namespace SourceMacros

open Text

/-- An identifier that no primitive type has as its name. -/
structure IsCustomName (name : String) : Prop where
  identifier : isIdentifier name = true
  notPrimitive : ∀ p : PrimitiveType, p.name ≠ name

namespace TypeDescriptor

/-- The number of optional types, lists and dictionaries around the innermost name. -/
def layers : TypeDescriptor → Nat
  | primitive _ => 0
  | custom _ => 0
  | optional wrapped => wrapped.layers + 1
  | array element => element.layers + 1
  | dictionary key value => max key.layers value.layers + 1

def Named : TypeDescriptor → Prop
  | primitive _ => True
  | custom name => IsCustomName name
  | optional wrapped => wrapped.Named
  | array element => element.Named
  | dictionary key value => key.Named ∧ value.Named

/-- The text describes the type. -/
inductive Spelled : TypeDescriptor → List Char → Prop
  | primitive {b b' : List Char} (p : PrimitiveType) (hb : Blank b) (hb' : Blank b') :
    Spelled (.primitive p) (b ++ (p.name.toList ++ b'))
  | custom {name : String} {b b' : List Char} (hname : IsCustomName name) (hb : Blank b)
    (hb' : Blank b') : Spelled (.custom name) (b ++ (name.toList ++ b'))
  | optional {t : TypeDescriptor} {s b : List Char} (hs : Spelled t s) (hb : Blank b) :
    Spelled (.optional t) (s ++ '?' :: b)
  | array {t : TypeDescriptor} {s b b' : List Char} (hs : Spelled t s) (hb : Blank b)
    (hb' : Blank b') : Spelled (.array t) (b ++ '[' :: (s ++ ']' :: b'))
  | dictionary {k v : TypeDescriptor} {s s' b b' : List Char} (hs : Spelled k s) (hs' : Spelled v s')
    (hb : Blank b) (hb' : Blank b') :
    Spelled (.dictionary k v) (b ++ '[' :: (s ++ ':' :: (s' ++ ']' :: b')))

variable {t : TypeDescriptor} {s : List Char}

theorem Spelled.blank_append {g : List Char} (hg : Blank g) (h : t.Spelled s) : t.Spelled (g ++ s) := by
  induction h with
  | primitive p hb hb' =>
    rw [← List.append_assoc]
    exact .primitive p (hg.append hb) hb'
  | custom hname hb hb' =>
    rw [← List.append_assoc]
    exact .custom hname (hg.append hb) hb'
  | optional _ hb ih =>
    rw [← List.append_assoc]
    exact .optional ih hb
  | array hs hb hb' _ =>
    rw [← List.append_assoc]
    exact .array hs (hg.append hb) hb'
  | dictionary hs hs' hb hb' _ _ =>
    rw [← List.append_assoc]
    exact .dictionary hs hs' (hg.append hb) hb'

theorem Spelled.named (h : t.Spelled s) : t.Named := by
  induction h with
  | primitive => trivial
  | custom hname => exact hname
  | optional _ _ ih => exact ih
  | array _ _ _ ih => exact ih
  | dictionary _ _ _ _ ih ih' => exact ⟨ih, ih'⟩

theorem spelled_written (t : TypeDescriptor) (h : t.Named) : t.Spelled t.written := by
  induction t with
  | primitive p =>
    have hname := Spelled.primitive p Blank.nil Blank.nil
    rwa [List.append_nil] at hname
  | custom name =>
    have hname := Spelled.custom h Blank.nil Blank.nil
    rwa [List.append_nil] at hname
  | optional wrapped ih => exact .optional (ih h) Blank.nil
  | array element ih => exact .array (ih h) Blank.nil Blank.nil
  | dictionary key value ih ih' =>
    exact .dictionary (ih h.1) ((ih' h.2).blank_append blank_space) Blank.nil Blank.nil

theorem spelled_written_iff (t : TypeDescriptor) : t.Spelled t.written ↔ t.Named :=
  ⟨Spelled.named, t.spelled_written⟩

@[simp] theorem toList_render (t : TypeDescriptor) : t.render.toList = t.written := by
  simp [render]

end TypeDescriptor
end SourceMacros
