/-! Source paths, as texts. A linter may report a file relative to the directory it ran in, as an
absolute path or as a `file:///` address, with slashes or backslashes. `SourcePath.normalize`
turns a reported path into the slash path of the same file as seen from the working directory.

A path has a `Root` and parts (`Location`). Reading a location folds the empty part, `.` and `..`;
an absolute location never climbs above its root. Nothing here looks at the file system. -/

namespace LintReview.SourcePath

/-- Where a path starts: at no fixed place, at the root of the file system, or at a drive. -/
inductive Root where
  | floating
  | slash
  | drive (letter : Char)
  deriving DecidableEq, Repr

def Root.text : Root → List Char
  | floating => []
  | slash => ['/']
  | drive letter => [letter, ':', '/']

structure Location where
  root : Root
  parts : List (List Char)
  deriving DecidableEq, Repr

/-- The text with every backslash turned into a slash. -/
def toSlashes (s : List Char) : List Char :=
  s.map fun c => if c = '\\' then '/' else c

/-- The drive letter at the start of a path, and what follows its colon. -/
def drive? : List Char → Option (Char × List Char)
  | letter :: ':' :: rest => if letter.isAlpha then some (letter, rest) else none
  | _ => none

/-- Whether a path starts at the root of the file system or at a drive. -/
def isAbsolute (p : List Char) : Bool :=
  p.head? = some '/' || (drive? p).isSome

/-- A path without the slashes at its end. -/
def dropTrailingSlashes (p : List Char) : List Char :=
  (p.reverse.dropWhile (· = '/')).reverse

/-- One path below another; an empty path on either side gives the other one. -/
def join (base rest : List Char) : List Char :=
  if base.isEmpty then rest
  else if rest.isEmpty then base
  else dropTrailingSlashes base ++ '/' :: rest

/-- Puts one more part on the folded parts, of which the innermost comes first. A `..` takes the
innermost part away unless that is a `..` itself; with nothing to take away it stays, except at
a fixed root. -/
def pushPart (root : Root) (folded : List (List Char)) (part : List Char) : List (List Char) :=
  if part = [] ∨ part = ['.'] then folded
  else if part = ['.', '.'] then
    match folded with
    | inner :: outer =>
      if inner ≠ ['.', '.'] then outer
      else if root = .floating then part :: folded
      else folded
    | [] => if root = .floating then [part] else []
  else part :: folded

/-- The folded parts of a slash path below its root. -/
def foldParts (root : Root) (p : List Char) : List (List Char) :=
  ((p.splitOn '/').foldl (pushPart root) []).reverse

/-- Reads a slash path. A drive letter is kept in upper case. -/
def Location.ofText (p : List Char) : Location :=
  match drive? p with
  | some (letter, rest) =>
    let root := Root.drive letter.toUpper
    ⟨root, foldParts root rest⟩
  | none =>
    let root := if p.head? = some '/' then Root.slash else Root.floating
    ⟨root, foldParts root p⟩

def joinParts (parts : List (List Char)) : List Char := ['/'].intercalate parts

/-- Both lists without their longest common start. -/
def dropCommon : List (List Char) → List (List Char) → List (List Char) × List (List Char)
  | a :: as, b :: bs => if a = b then dropCommon as bs else (a :: as, b :: bs)
  | as, bs => (as, bs)

/-- The text of one location as seen from another: one `..` for each part of `base` that the two do
not share, then the rest of `target`. A location on another root is written in full. -/
def relative (base target : Location) : List Char :=
  if base.root ≠ target.root then target.root.text ++ joinParts target.parts
  else
    let (up, down) := dropCommon base.parts target.parts
    joinParts (up.map (fun _ => ['.', '.']) ++ down)

/-- What marks the address of a local file. -/
def fileScheme : List Char := "file:///".toList

/-- The slash path of the file a tool names: the reported path if that is absolute, else the path
below the analysis root, which lies below the working directory unless it is absolute. -/
def target (reported analysisRoot cwd : List Char) : List Char :=
  let reported := toSlashes ((fileScheme.isPrefixOf? reported).getD reported)
  let below :=
    if isAbsolute reported then reported else join (toSlashes analysisRoot) reported
  if isAbsolute below then below else join (toSlashes cwd) below

/-- A reported path as the slash path of the same file seen from the working directory. -/
def normalize (reported analysisRoot cwd : String) : String :=
  let cwd := toSlashes cwd.toList
  String.ofList <|
    relative (.ofText cwd) (.ofText (target reported.toList analysisRoot.toList cwd))

/-- A line without one leading `./` or `.\`. -/
def dropDot : List Char → List Char
  | '.' :: '/' :: rest => rest
  | '.' :: '\\' :: rest => rest
  | line => line

/-- The path as reported, less one leading `./` or `.\` on each of its lines. -/
def tidy (path : String) : String :=
  String.ofList <| ['\n'].intercalate ((path.toList.splitOn '\n').map dropDot)

end LintReview.SourcePath
