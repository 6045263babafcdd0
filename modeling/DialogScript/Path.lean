import DialogScript.Problem.Breakdown
import DialogScript.Text.Letter

/-!
File paths as texts. The last component of a path is what stands after the last slash, slashes and
single dots at the end left out.
-/

namespace DialogScript.Path

/-- Whether a text holds a character that names do not have but paths do. -/
def looksLikePath (name : String) : Bool :=
  name.toList.any fun c => c = '.' || c = '/' || c = '\\'

/-- Whether a path starts at a root, a share or a drive. -/
def isRooted (path : String) : Bool :=
  match path.toList with
  | '/' :: _ => true
  | '\\' :: '\\' :: _ => true
  | c :: ':' :: _ => Text.isLetter c
  | _ => false

/-- A path cut at its slashes, without empty and single-dot components. -/
def components (path : String) : List String :=
  ((path.splitOn "/").filter fun p => p != "" && p != ".")

/-- The last component, or nothing for a root or an empty path. -/
def name (path : String) : String := (components path).getLast?.getD ""

/-- What a component holds from its last dot on, unless that dot is its first or last character. -/
def suffixOf (name : List Char) : List Char :=
  let tail := (name.reverse.takeWhile (· != '.')).reverse
  let before := name.length - tail.length
  if tail.isEmpty || before ≤ 1 then [] else '.' :: tail

/-- The suffix of a path, with its dot. -/
def suffix (path : String) : String := String.ofList (suffixOf (name path).toList)

/-- A path without empty and single-dot components. Two slashes at the start are kept; three or more
count as one. -/
def normalize (path : String) : String :=
  let root := match path.toList with
    | '/' :: '/' :: '/' :: _ => "/"
    | '/' :: '/' :: _ => "//"
    | '/' :: _ => "/"
    | _ => ""
  let body := "/".intercalate (components path)
  if root = "" ∧ body = "" then "." else root ++ body

/-- The components of a path without its double dots, each of which takes back the component before
it. Above the start of the path there is nothing to take back. -/
def withoutParents : List String → List String → List String
  | before, [] => before.reverse
  | before, c :: rest =>
    if c = ".." then
      match before with
      | [] => withoutParents [] rest
      | _ :: before => withoutParents before rest
    else withoutParents (c :: before) rest

/-- A path without double dots: one at a root from its slash on, any other from where the program
runs. -/
def resolve (path : String) : String :=
  let body := "/".intercalate (withoutParents [] (components path))
  if path.startsWith "/" then "/" ++ body else body

/-- A path in which a tilde as the first component stands for the home directory. Other components
that start with a tilde stand for the directories of others, which are not known. -/
def expandHome (home : Option String) (path : String) : Except Breakdown String :=
  match components path with
  | first :: rest =>
    if path.startsWith "/" || !first.startsWith "~" then .ok path
    else
      match home with
      | some home =>
        if first = "~" then .ok ("/".intercalate (home :: rest)) else .error .noHome
      | none => .error .noHome
  | [] => .ok path

end DialogScript.Path
