import RouteNetlink.Fault.OsError

/-! Opening a path for reading, on a machine that stands in for a real one. Names are followed from
a directory down; links on the way lead elsewhere, and too many of them lead nowhere. -/
namespace RouteNetlink

inductive FileNode where
  /-- Some directories look up names of any length, others refuse long ones. -/
  | directory (longNames : Bool) (entries : List (String × FileNode))
  | file
  /-- What cannot be opened, with the error number that says why. -/
  | sealed (code : Int32)
  | link (target : String)
  | namespaceHandle (network : Bool)

namespace FileNode

/-- The bytes of a name that every directory looks up. -/
def maxName : Nat := 255

/-- The bytes of a path that can still be followed. -/
def maxPath : Nat := 4095

/-- The links that one path may lead over. -/
def maxLinks : Nat := 40

def entry (longNames : Bool) (entries : List (String × FileNode)) (name : String) :
    Except Int32 FileNode :=
  match entries.lookup name with
  | some node => .ok node
  | none =>
    if maxName < name.utf8ByteSize ∧ ¬longNames then .error OsError.nameTooLong
    else .error OsError.noEntry

/-- The names of a path. In front of a leading slash stands an empty one, behind a trailing
one too. -/
def names (path : String) : List String := path.splitOn "/"

/-- Follows names from a node, over at most so many links. The directories on the way, the
nearest first, are those that two dots lead back to; the root leads back to itself. -/
def walk (root : FileNode) (links : Nat) (above : List FileNode) (node : FileNode) :
    List String → Except Int32 FileNode
  | [] => .ok node
  | name :: rest =>
    match node with
    | directory longNames entries =>
      if name = "" ∨ name = "." then walk root links above node rest
      else if name = ".." then
        match above with
        | parent :: above => walk root links above parent rest
        | [] => walk root links [] node rest
      else
        match entry longNames entries name with
        | .error code => .error code
        | .ok (link target) =>
          match links with
          | 0 => .error OsError.tooManyLinks
          | links + 1 =>
            match names target with
            | "" :: onward => walk root links [] root (onward ++ rest)
            | onward => walk root links above node (onward ++ rest)
        | .ok next => walk root links (node :: above) next rest
    | _ => .error OsError.notDirectory
termination_by names => (links, names.length)

def openPath (root : FileNode) (working : List String) (path : String) :
    Except Int32 FileNode :=
  if path = "" then .error OsError.noEntry
  else if maxPath < path.utf8ByteSize then .error OsError.nameTooLong
  else
    let found :=
      match names path with
      | "" :: onward => walk root maxLinks [] root onward
      | onward => walk root maxLinks [] root (working ++ onward)
    match found with
    | .ok (sealed code) => .error code
    | found => found

end FileNode
end RouteNetlink
