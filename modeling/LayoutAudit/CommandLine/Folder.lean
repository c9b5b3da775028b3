/-!
# CommandLine.Folder — files by their paths

* `Folder` — a folder with the files in and below it;
* `Folder.follow?` — where a path leads, step by step;
* `Folder.read?`, `Folder.isDirectory`, `Folder.contains` — what is at the end of a path.
-/

namespace LayoutAudit
namespace CommandLine

structure Folder where
  files : List (List String × String)
  deriving Inhabited

namespace Folder

/-- Is there a directory at a place?  There is one wherever a file lies below, and at the top. -/
def holds (f : Folder) (place : List String) : Bool :=
  place.isEmpty || f.files.any fun (p, _) => place.isPrefixOf p && place != p

/-- Takes steps from a place.  Each step starts in a directory; the top is its own parent. -/
def walk? (f : Folder) (place : List String) : List String → Option (List String)
  | [] => some place
  | step :: rest =>
      if !f.holds place then none
      else if step = "" ∨ step = "." then walk? f place rest
      else if step = ".." then walk? f place.dropLast rest
      else walk? f (place ++ [step]) rest

/-- Where a path leads.  A path that starts at the root of all files leads out of the folder. -/
def follow? (f : Folder) (path : String) : Option (List String) :=
  match path.splitOn "/" with
  | "" :: _ => none
  | steps => f.walk? [] steps

def ofFiles (files : List (String × String)) : Folder :=
  ⟨files.map fun (path, text) => (path.splitOn "/", text)⟩

def read? (f : Folder) (path : String) : Option String := do f.files.lookup (← f.follow? path)

def isDirectory (f : Folder) (path : String) : Bool := (f.follow? path).any f.holds

/-- Is there a file or a directory at a path? -/
def contains (f : Folder) (path : String) : Bool :=
  (f.read? path).isSome || f.isDirectory path

end Folder
end CommandLine
end LayoutAudit
