import LayoutAudit.Viewport.Token

/-!
# Viewport.Catalog — viewports and groups of them by name

* `Distinct.firsts` — the items of a list without those whose name came before;
* `Distinct.put` — replaces the item of a name where it stands, or adds it at the end;
* `Catalog` — presets and groups of presets, each in the order in which they were added;
* `Catalog.addPreset`, `Catalog.addGroup` — adding, or replacing what has the same name;
* `Catalog.standard` — the catalog that every run starts from;
* `Catalog.viewports` — what a token stands for;
* `Catalog.expand` — what several tokens stand for, each viewport once.
-/

namespace LayoutAudit

/-! ## The first of each name -/

namespace Distinct

variable {α : Type}

/-- The items whose name is neither among `seen` nor that of an item before. -/
def firstsAfter (name : α → String) (seen : List String) : List α → List α
  | [] => []
  | a :: rest =>
      if seen.contains (name a) then firstsAfter name seen rest
      else a :: firstsAfter name (name a :: seen) rest

def firsts (name : α → String) (as : List α) : List α := firstsAfter name [] as

/-- Puts an item in the place of the one of the same name, or else at the end. -/
def put (name : α → String) (a : α) : List α → List α
  | [] => [a]
  | b :: rest => if name b = name a then a :: rest else b :: put name a rest

end Distinct

/-! ## Catalogs -/

/-- Known viewports and groups. -/
structure Catalog where
  presets : List Viewport
  /-- The names of groups, each with the names of its members. -/
  groups : List (String × List String)
  deriving DecidableEq, Repr, Inhabited

namespace Catalog

def empty : Catalog := ⟨[], []⟩

def preset? (c : Catalog) (name : String) : Option Viewport := c.presets.find? (·.name == name)

def group? (c : Catalog) (name : String) : Option (List String) := c.groups.lookup name

/-- Adds a preset; one of the same name gives way, and keeps its place. -/
def addPreset (c : Catalog) (v : Viewport) : Catalog :=
  { c with presets := Distinct.put Viewport.name v c.presets }

/-- Adds a group, all of whose members have to be presets. -/
def addGroup (c : Catalog) (name : String) (members : List String) : Except TokenError Catalog :=
  match members.find? fun m => (c.preset? m).isNone with
  | some m => .error ⟨name, .unknownMember m⟩
  | none => .ok { c with groups := Distinct.put Prod.fst (name, members) c.groups }

/-- The presets that every catalog of a run has. -/
def standardPresets : List Viewport :=
  [⟨"mobile-s", 320, 568⟩, ⟨"mobile", 375, 812⟩, ⟨"mobile-l", 414, 896⟩, ⟨"tablet", 768, 1024⟩,
   ⟨"tablet-l", 1024, 768⟩, ⟨"desktop", 1280, 800⟩, ⟨"desktop-l", 1920, 1080⟩]

def standard : Catalog where
  presets := standardPresets
  groups :=
    [("phones", ["mobile-s", "mobile", "mobile-l"]), ("tablets", ["tablet", "tablet-l"]),
     ("desktops", ["desktop", "desktop-l"]), ("common", ["mobile", "tablet", "desktop"]),
     ("all", standardPresets.map Viewport.name)]

/-- What a trimmed token stands for: itself, a preset, or the members of a group. -/
def lookUp (c : Catalog) (token : String) : Except TokenFault (List Viewport) :=
  if token.isEmpty then .error .empty
  else if token.toList.contains '=' then do return [← Viewport.ofToken token]
  else match c.preset? token with
    | some v => .ok [v]
    | none => match c.group? token with
      | some members => .ok (members.filterMap c.preset?)
      | none => .error .unknown

/-- The viewports of a token; blanks around it do not count. -/
def viewports (c : Catalog) (token : String) : Except TokenError (List Viewport) :=
  let token := Text.trim token
  (c.lookUp token).mapError fun fault => ⟨token, fault⟩

/-- The viewports of several tokens; of those with one name the first. -/
def expand (c : Catalog) (tokens : List String) : Except TokenError (List Viewport) := do
  return Distinct.firsts Viewport.name (← tokens.mapM c.viewports).flatten

end Catalog
end LayoutAudit
