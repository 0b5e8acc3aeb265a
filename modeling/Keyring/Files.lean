/-!
# Files

A file system as a tree: files hold bytes, directories hold named nodes.  A
path is looked up name by name, from the root if it begins with a slash and
from the working directory otherwise, and the first name that cannot be
followed decides why the lookup fails.  A file can be there and yet not be read,
for want of a permission or because its device fails.
-/

namespace Keyring

inductive FileNode where
  | file (bytes : ByteArray)
  /-- A file that cannot be read, with what the system says of it. -/
  | unreadable (reason : String)
  | directory (children : List (String × FileNode))

inductive AccessFault where
  | notFound
  | notDirectory
  | isDirectory
  | nameTooLong
  | notText
  | nulInName
  /-- What the system says itself. -/
  | system (reason : String)
  deriving DecidableEq, Repr

namespace AccessFault

def message : AccessFault → String
  | .notFound => "No such file or directory (os error 2)"
  | .notDirectory => "Not a directory (os error 20)"
  | .isDirectory => "Is a directory (os error 21)"
  | .nameTooLong => "File name too long (os error 36)"
  | .notText => "stream did not contain valid UTF-8"
  | .nulInName => "file name contained an unexpected NUL byte"
  | .system reason => reason

end AccessFault

namespace FileNode

def empty : FileNode := .directory []

/-- Bytes in a name, and bytes in a path, are limited. -/
def maxNameSize : Nat := 255

def maxPathSize : Nat := 4095

def child? (children : List (String × FileNode)) (name : String) : Option FileNode :=
  (children.find? fun entry => entry.1 == name).map Prod.snd

/-- Follows names from a node; `above` are the directories on the way to it,
the nearest first.  The root lies above itself. -/
def follow (node : FileNode) (above : List FileNode) : List String → Except AccessFault FileNode
  | [] => .ok node
  | name :: rest =>
    match node with
    | .file _ | .unreadable _ => .error .notDirectory
    | .directory children =>
      if name = "" ∨ name = "." then follow node above rest
      else if name = ".." then
        match above with
        | [] => follow node [] rest
        | parent :: further => follow parent further rest
      else if maxNameSize < name.utf8ByteSize then .error .nameTooLong
      else
        match child? children name with
        | none => .error .notFound
        | some next => follow next (node :: above) rest

/-- What stands between the slashes of a path. -/
def namesOf (path : String) : List String :=
  (path.toList.splitOn '/').map String.ofList

/-- The node at a path from a root. -/
def resolve (root : FileNode) (path : String) : Except AccessFault FileNode :=
  root.follow [] (namesOf path)

/-- Puts a node at the end of a way, and makes the directories on it. -/
def insert (node leaf : FileNode) : List String → FileNode
  | [] => leaf
  | name :: rest =>
    let children := match node with
      | .directory children => children
      | .file _ | .unreadable _ => []
    let inner := ((child? children name).getD .empty).insert leaf rest
    .directory ((children.filter fun entry => entry.1 != name) ++ [(name, inner)])

/-- Puts a node at a path below a directory. -/
def place (root : FileNode) (path : String) (leaf : FileNode) : FileNode :=
  root.insert leaf ((namesOf path).filter fun name => name != "" && name != ".")

/-- A name that leads down from a directory. -/
structure IsProper (name : String) : Prop where
  nonempty : name ≠ ""
  notHere : name ≠ "."
  notAbove : name ≠ ".."
  short : name.utf8ByteSize ≤ maxNameSize

theorem follow_proper {name : String} (hname : IsProper name)
    (children : List (String × FileNode)) (above : List FileNode) (rest : List String) :
    (directory children).follow above (name :: rest) =
      match child? children name with
      | none => .error .notFound
      | some next => next.follow (directory children :: above) rest := by
  simp only [follow, hname.nonempty, hname.notHere, hname.notAbove, Nat.not_lt.mpr hname.short,
    or_self, if_false]

/-- A directory that is entered and left again is as good as not entered. -/
theorem follow_back {name : String} (hname : IsProper name)
    {children grandchildren : List (String × FileNode)}
    (hchild : child? children name = some (directory grandchildren))
    (above : List FileNode) (rest : List String) :
    (directory children).follow above (name :: ".." :: rest) =
      (directory children).follow above rest := by
  rw [follow_proper hname, hchild]
  simp [follow]

theorem child?_replaced (children : List (String × FileNode)) (name : String) (node : FileNode) :
    child? ((children.filter fun entry => entry.1 != name) ++ [(name, node)]) name =
      some node := by
  have hnone : (children.filter fun entry => entry.1 != name).find?
      (fun entry => entry.1 == name) = none := by
    simp [List.find?_eq_none]
  simp [child?, List.find?_append, hnone]

/-- What is put at the end of a way is found there. -/
theorem follow_insert {names : List String} (hnames : ∀ name ∈ names, IsProper name)
    (node leaf : FileNode) (above : List FileNode) :
    (node.insert leaf names).follow above names = .ok leaf := by
  induction names generalizing node above with
  | nil => simp [insert, follow]
  | cons name rest ih =>
      have hname := hnames name List.mem_cons_self
      have hrest := fun other hmem => hnames other (List.mem_cons_of_mem _ hmem)
      simp only [insert, follow_proper hname, child?_replaced]
      exact ih hrest _ _

/-- What is put at an absolute path is found at it. -/
theorem resolve_place {path : String} {name : String} {names : List String}
    (hpath : namesOf path = "" :: name :: names)
    (hnames : ∀ other ∈ name :: names, IsProper other) (root leaf : FileNode) :
    (root.place path leaf).resolve path = .ok leaf := by
  have hkept : (namesOf path).filter (fun other => other != "" && other != ".") =
      name :: names := by
    rw [hpath, List.filter_cons_of_neg (by simp), List.filter_eq_self]
    intro other hmem
    simp [(hnames other hmem).nonempty, (hnames other hmem).notHere]
  have hfound := follow_insert hnames root leaf []
  rw [resolve, place, hkept, hpath, ← hfound]
  cases hinsert : root.insert leaf (name :: names) with
  | directory children => simp [follow]
  | _ => simp [insert] at hinsert

end FileNode

/-- A tree, with the path from its root to the directory that is worked in. -/
structure FileSystem where
  root : FileNode
  working : String := "/"

/-- A tree on its own is worked in, and nothing else is there. -/
instance : Coe FileNode FileSystem :=
  ⟨fun tree => { root := .directory [("work", tree)], working := "/work" }⟩

namespace FileSystem

/-- The path from the root to where a path leads. -/
def absolute (files : FileSystem) (path : String) : String :=
  if path.startsWith "/" then path else files.working ++ "/" ++ path

def resolve (files : FileSystem) (path : String) : Except AccessFault FileNode :=
  if path.toList.contains '\x00' then .error .nulInName
  else if path = "" then .error .notFound
  else if FileNode.maxPathSize < path.utf8ByteSize then .error .nameTooLong
  else files.root.resolve (files.absolute path)

def pathExists (files : FileSystem) (path : String) : Bool :=
  (files.resolve path).toBool

def readText (files : FileSystem) (path : String) : Except AccessFault String :=
  match files.resolve path with
  | .error fault => .error fault
  | .ok (.directory _) => .error .isDirectory
  | .ok (.unreadable reason) => .error (.system reason)
  | .ok (.file bytes) =>
    match String.fromUTF8? bytes with
    | some text => .ok text
    | none => .error .notText

end FileSystem
end Keyring
