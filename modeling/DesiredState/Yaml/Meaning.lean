import DesiredState.Document
import DesiredState.Yaml.Plain
import DesiredState.Yaml.Tree
/-!
What scalars can be taken for. Any scalar is a string to a reader that asks for one. One without
quotes is null, a truth value or a number if it looks like one; a tag settles what it is, and a
tag of one's own only lets it be a string.
-/

set_option autoImplicit false
set_option relaxedAutoImplicit false

namespace DesiredState

namespace Yaml

namespace Plain

/-- Free-form data that a scalar without quotes and tags denotes. What is not finite is null. -/
def value? (s : String) : Option Json :=
  match ofText s with
  | .null | .notFinite => some .null
  | .bool b => some (.bool b)
  | .int n => some (.int n)
  | .wide _ => none
  | .float x => some (.float x)
  | .text => some (.str s)

def floatValue? (s : String) : Option Json :=
  match float? s.toList with
  | some (.float x) => some (.float x)
  | some _ => some .null
  | none => none

end Plain

def taggedValue? (tag text : String) : Option Json :=
  match tag with
  | "tag:yaml.org,2002:bool" => (Plain.bool? text).map .bool
  | "tag:yaml.org,2002:int" => ((Plain.integer? text.toList).filter Plain.fits64).map .int
  | "tag:yaml.org,2002:float" => Plain.floatValue? text
  | "tag:yaml.org,2002:null" => if Plain.isNull text then some .null else none
  | _ => if tag.startsWith "!" then none else some (.str text)

def scalarValue? (tag : Option String) (text : String) (form : Form) : Option Json :=
  match tag with
  | some tag => taggedValue? tag text
  | none => if form = .plain then Plain.value? text else some (.str text)

private theorem isAtom_of_plainValue? {s : String} {j : Json} (h : Plain.value? s = some j) :
    j.isAtom = true := by
  unfold Plain.value? at h
  split at h <;> cases h <;> rfl

private theorem isAtom_of_taggedValue? {tag s : String} {j : Json}
    (h : taggedValue? tag s = some j) : j.isAtom = true := by
  unfold taggedValue? at h
  split at h
  · obtain ⟨b, _, rfl⟩ := Option.map_eq_some_iff.1 h; rfl
  · obtain ⟨n, _, rfl⟩ := Option.map_eq_some_iff.1 h; rfl
  · unfold Plain.floatValue? at h
    split at h <;> cases h <;> rfl
  · split at h <;> cases h; rfl
  · split at h <;> cases h; rfl

private theorem scalarValue?_isAtom (tag : Option String) (text : String) (form : Form) :
    (scalarValue? tag text form).all Json.isAtom = true := by
  cases h : scalarValue? tag text form with
  | none => rfl
  | some j =>
    unfold scalarValue? at h
    split at h
    · exact isAtom_of_taggedValue? h
    · split at h
      · exact isAtom_of_plainValue? h
      · cases h; rfl

/-- Whether a scalar stands for a value where one may be missing. Nothing at all is null only
without a tag. -/
def presenceOf (tag : Option String) (text : String) (form : Form) : Presence :=
  if form ≠ .plain then .given
  else
    match tag with
    | none => if text = "" || Plain.isNull text then .missing else .given
    | some "tag:yaml.org,2002:null" => if Plain.isNull text then .missing else .contradictory
    | some _ => .given

end Yaml

namespace Scalar

/-- The scalar of a document. A literal block can be a truth value or an integer if its tag says
so. -/
def ofYaml (tag : Option String) (text : String) (form : Yaml.Form) : Scalar :=
  let bare (name : String) : Bool := form = .plain || (form = .literal && tag = some name)
  { text? := some text
    int? := if bare "tag:yaml.org,2002:int" then Yaml.Plain.integer? text.toList else none
    bool? := if bare "tag:yaml.org,2002:bool" then Yaml.Plain.bool? text else none
    value? := Yaml.scalarValue? tag text form
    presence := Yaml.presenceOf tag text form
    empty := form = .plain && text = ""
    atomic := Yaml.scalarValue?_isAtom tag text form }

end Scalar

end DesiredState
