import Scaffold.Template.Render

namespace Scaffold

/-!
# Template sets

A template set lists what is to be generated. Each entry has a template
for the path of a file and one for its content.
-/

/-- The templates of one file. -/
structure TemplateEntry where
  identifier : String
  path : Template
  body : Template

/-- The templates of a generation, in order. -/
structure TemplateSet where
  entries : List TemplateEntry

namespace TemplateEntry

/-- An entry made of two sources; without an identifier its path source identifies it. -/
def ofStrings (path body : String) (identifier? : Option String) (helpers : Helpers) :
    TemplateEntry :=
  let identifier :=
    match identifier? with
    | some name => if name.isEmpty then path else name
    | none => path
  { identifier := identifier
    path := Template.named path (some (identifier ++ " (path)")) helpers
    body := Template.named body (some identifier) helpers }

end TemplateEntry

namespace TemplateSet

/-- The set made of pairs of a path and a body source; entries are identified by their number and
their path source. -/
def ofPairs (pairs : List (String × String)) (helpers : Helpers) : TemplateSet where
  entries := pairs.mapIdx fun i (path, body) =>
    TemplateEntry.ofStrings path body (some s!"#{i} {path}") helpers

def size (s : TemplateSet) : Nat :=
  s.entries.length

/-- The entry of a number; negative numbers count from the end. -/
def entry? (s : TemplateSet) (i : Int) : Option TemplateEntry :=
  if 0 ≤ i then s.entries[i.toNat]?
  else if -i ≤ s.size then s.entries[s.size - i.natAbs]?
  else none

end TemplateSet

end Scaffold
