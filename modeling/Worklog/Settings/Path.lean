import Worklog.Fault

/-!
# Paths

A path is kept in a normal form: no empty parts, no parts that are a single point, no separator at
the end; a path without parts is a single point. Two separators at the start stay two, more become
one.

* `Path.normalize` gives the normal form;
* `Path.expand` replaces a first part `~` by a home directory, of which `Homes` says where it is;
* `Path.join` puts a relative path behind a directory;
* `Path.parent` is the directory in which a path is.
-/

namespace Worklog

/-- **The home directories of a system**: that of the program's own user, and those of other users
    by their names. -/
structure Homes where
  own : Text
  ofUser? : Text → Option Text

/-- The home directory of the user with a name; without a name it is the program's own. -/
def Homes.find? (homes : Homes) (user : Text) : Option Text :=
  if user.isEmpty then some homes.own else homes.ofUser? user

namespace Path

/-- The separators at the start of a path that its normal form keeps. -/
def root (t : Text) : Text :=
  let n := (t.takeWhile (· == '/')).length
  if n = 0 then [] else if n = 2 then ['/', '/'] else ['/']

/-- The parts of a path that count. -/
def parts (t : Text) : List Text := (t.splitOn '/').filter fun p => !p.isEmpty && p != ['.']

/-- A path from its root and parts. -/
def ofParts (root : Text) (parts : List Text) : Text :=
  if root.isEmpty && parts.isEmpty then ['.'] else root ++ Text.joinWith ['/'] parts

/-- **The normal form of a path.** -/
def normalize (t : Text) : Text := ofParts (root t) (parts t)

/-- Whether a path starts at the root. -/
def isAbsolute (t : Text) : Bool := t.head? == some '/'

/-- A path behind a directory, in normal form; an absolute path stands for itself. -/
def join (directory t : Text) : Text :=
  if isAbsolute t then normalize t else normalize (directory ++ '/' :: t)

/-- The directory in which a path is. -/
def parent (t : Text) : Text := ofParts (root t) (parts t).dropLast

/-- A home directory as the start of a path: the root, if it has no more than separators. -/
def ofHome (directory : Text) : Text := if directory.all (· == '/') then ['/'] else directory

/-- **A path whose first part `~` is replaced by a home directory**, which is another user's where
    a name follows. A home directory that starts with `~` in turn is of no use. -/
def expand (homes : Homes) (t : Text) : Except Fault Text :=
  if isAbsolute t then .ok (normalize t) else
    match parts t with
    | ('~' :: user) :: rest =>
      match (homes.find? user).map ofHome with
      | some ('~' :: _) => .error .unknownHome
      | some h => .ok (ofParts (root h) (parts h ++ rest))
      | none => .error .unknownHome
    | _ => .ok (normalize t)

end Path

end Worklog
