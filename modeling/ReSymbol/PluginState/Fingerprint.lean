import ReSymbol.Schemes.Texts

/-! The fingerprint of a plugin directory.

    Trust in a plugin is bound to the exact contents of its directory. The directory is walked under
    limits, every directory and every regular file becomes an entry with its path from the root, and
    the entries, sorted by path, are hashed one behind the other. A regular file named
    `plugin.disabled` at the root is left out, so that switching a plugin off does not change what
    it is.

        root/  plugin.toml  lib/  lib/code.wasm        'd' |lib| lib
                                                       'f' |lib/code.wasm| lib/code.wasm size bytes
                                                       'f' |plugin.toml| plugin.toml size bytes

    The file system is what the calls of one walk see of it, and does not change meanwhile. -/

namespace ReSymbol.PluginState
open Schemes

/-! ### Directories -/

/-- What stands at a path. -/
inductive FileKind where
  | directory
  | file (contents : List UInt8)
  | symlink
  | other
  deriving DecidableEq

/-- A directory as the file system shows it. Paths are names from the root on; a name that is not
    UTF-8 is `none`. -/
structure PluginTree where
  /-- The entries of a directory, in the order in which they are listed. -/
  readDir : List String → List (Option String)
  kind : List String → FileKind
  distinct : ∀ path, (readDir path).reduceOption.Nodup
  named : ∀ path name, some name ∈ readDir path → IsName name

structure FingerprintLimits where
  maxFiles : UInt64
  maxEntries : UInt64
  maxFileBytes : UInt64
  maxTotalBytes : UInt64
  maxDepth : UInt64

inductive FingerprintError where
  | rootNotDirectory
  | symlink (path : List String)
  /-- The directory with a name that is not UTF-8. -/
  | nonUtf8Path (directory : List String)
  | unsupportedFileType (path : List String)
  | fileChanged (path : List String)
  | limitExceeded (limit : String) (maximum observed : ℕ) (path : List String)
  /-- The panic of a text that is larger than any allocation. -/
  | capacityOverflow (path : List String)
  deriving DecidableEq

def u64Max : ℕ := 2 ^ 64 - 1

def enforceLimit (limit : String) (observed maximum : ℕ) (path : List String) :
    Except FingerprintError Unit :=
  if observed > maximum then .error (.limitExceeded limit maximum observed path) else .ok ()

/-- Add to a counter and hold it against its limit. -/
def countUp (limit : String) (maximum counter amount : ℕ) (path : List String) :
    Except FingerprintError ℕ := do
  let counter ← if counter + amount > u64Max then
      .error (.limitExceeded limit maximum u64Max path)
    else .ok (counter + amount)
  enforceLimit limit counter maximum path
  return counter

/-! ### The walk -/

inductive EntryKind where
  | directory
  | file (size : ℕ)

def EntryKind.tag : EntryKind → UInt8
  | .directory => 'd'.toUInt8
  | .file _ => 'f'.toUInt8

structure ArtifactEntry where
  path : List String
  relative : String
  kind : EntryKind

structure TraversalCounters where
  visitedEntries : ℕ
  files : ℕ
  entries : ℕ
  totalBytes : ℕ

/-- The counters and the entries of a walk. -/
structure Traversal where
  counters : TraversalCounters
  entries : List ArtifactEntry

def disabledSentinel : String := "plugin.disabled"

/-- The largest size of an allocation. -/
def maxAllocation : ℕ := 2 ^ 63 - 1

/-- The path of an entry as a text. -/
def relativePath (relativeParent name : String) (path : List String) :
    Except FingerprintError String :=
  let relative := joinName relativeParent name
  if relative.utf8ByteSize > maxAllocation then .error (.capacityOverflow path) else .ok relative

section Walk

variable (tree : PluginTree) (limits : FingerprintLimits)

/-- One entry of a directory is listed. -/
def readChild (directory : List String) (state : TraversalCounters × List String)
    (name : Option String) : Except FingerprintError (TraversalCounters × List String) := do
  -- one more entry than the limit says, because the sentinel is not counted there
  let visitedEntries ← countUp "artifact traversal entry count"
    (min (limits.maxEntries.toNat + 1) u64Max) state.1.visitedEntries 1
    (directory ++ name.toList)
  match name with
  | none => .error (.nonUtf8Path directory)
  | some name => .ok ({ state.1 with visitedEntries }, state.2 ++ [name])

/-- One entry of a directory is visited; `descend` visits the directory that it may be. -/
def collectChild (descend : List String → String → ℕ → Traversal →
    Except FingerprintError Traversal)
    (directory : List String) (relativeParent : String) (parentDepth : ℕ) (t : Traversal)
    (name : String) : Except FingerprintError Traversal :=
  let path := directory ++ [name]
  let depth := parentDepth + 1
  if depth > limits.maxDepth.toNat then
    .error (.limitExceeded "relative path depth" limits.maxDepth.toNat (min depth u64Max) path)
  else match tree.kind path with
  | .symlink => .error (.symlink path)
  | .directory => do
    let relative ← relativePath relativeParent name path
    let entries ← countUp "artifact entry count" limits.maxEntries.toNat t.counters.entries 1 path
    descend path relative depth
      ⟨{ t.counters with entries }, t.entries ++ [⟨path, relative, .directory⟩]⟩
  | .file contents => do
    let relative ← relativePath relativeParent name path
    if parentDepth = 0 ∧ name = disabledSentinel then .ok t
    else do
      let entries ← countUp "artifact entry count" limits.maxEntries.toNat t.counters.entries 1 path
      let size := contents.length
      enforceLimit "individual file size" size limits.maxFileBytes.toNat path
      let files ← countUp "regular file count" limits.maxFiles.toNat t.counters.files 1 path
      let totalBytes ← countUp "total artifact bytes" limits.maxTotalBytes.toNat
        t.counters.totalBytes size path
      return ⟨{ t.counters with entries, files, totalBytes },
        t.entries ++ [⟨path, relative, .file size⟩]⟩
  | .other => do
    let _ ← relativePath relativeParent name path
    let _ ← countUp "artifact entry count" limits.maxEntries.toNat t.counters.entries 1 path
    .error (.unsupportedFileType path)

/-- The walk below a directory. The first argument counts the levels that are left: deeper than the
    limit no directory is entered. -/
def collectEntries : ℕ → List String → String → ℕ → Traversal → Except FingerprintError Traversal
  | 0, directory, _, parentDepth, _ =>
    .error (.limitExceeded "relative path depth" limits.maxDepth.toNat parentDepth directory)
  | room + 1, directory, relativeParent, parentDepth, t => do
    let (counters, names) ←
      (tree.readDir directory).foldlM (readChild limits directory) (t.counters, [])
    (sortBy byteOrder names).foldlM
      (collectChild tree limits (collectEntries room) directory relativeParent parentDepth)
      { t with counters }

end Walk

/-! ### The hash -/

def hashLengthPrefixed (value : List UInt8) : List UInt8 := lengthPrefixed 8 value

/-- The bytes of one entry, as they are read from the file system once more. -/
def hashEntry (tree : PluginTree) (entry : ArtifactEntry) : Except FingerprintError (List UInt8) :=
  let head := entry.kind.tag :: hashLengthPrefixed (utf8 entry.relative)
  match entry.kind with
  | .directory => .ok head
  | .file size =>
    match tree.kind entry.path with
    | .file contents =>
      if contents.length ≠ size then .error (.fileChanged entry.path)
      else .ok (head ++ leBytes 8 size ++ contents)
    | _ => .error (.fileChanged entry.path)

structure FingerprintReport (δ : Type) where
  fingerprint : δ
  fileCount : ℕ
  entryCount : ℕ
  totalBytes : ℕ

def fingerprintDomain : List UInt8 :=
  utf8 "resymbol.plugin-artifact-fingerprint" ++ [0] ++ utf8 "v1" ++ [0]

/-- The fingerprint of a directory under a hash function. -/
def fingerprintPluginDirectory {δ : Type} (sha256 : List UInt8 → δ) (tree : PluginTree)
    (limits : FingerprintLimits) : Except FingerprintError (FingerprintReport δ) :=
  match tree.kind [] with
  | .symlink => .error (.symlink [])
  | .directory => do
    let t ← collectEntries tree limits (limits.maxDepth.toNat + 1) [] "" 0 ⟨⟨0, 0, 0, 0⟩, []⟩
    let entries := sortBy (fun left right => byteOrder left.relative right.relative) t.entries
    let hashed ← entries.foldlM (fun hashed entry => do
      let bytes ← hashEntry tree entry
      return hashed ++ bytes) fingerprintDomain
    return ⟨sha256 hashed, t.counters.files, t.counters.entries, t.counters.totalBytes⟩
  | _ => .error .rootNotDirectory

end ReSymbol.PluginState
