/-
The loader of the native library (`core/NativeLoader.kt`).

Every use of the native core goes through `ensureLoaded`, which loads the library
the first time that works: from a copy of the bundled file in a directory of its
own, or else from where the JVM looks for libraries.  The directory of the copy is
put in front of `jna.library.path`, a property of the whole process.

All of it happens under a lock and behind the test of `loaded`, so that calls work
one after the other.
-/
import TlsPlus.Extension.Kotlin

namespace TlsPlus

open Text

/-- What is settled when the process starts: the paths as texts, the directory's being absolute
and therefore not blank. -/
structure LoaderPaths where
  resourcePath : Str
  extractionDir : Str
  target : Str
  separator : Str
  absolute : isNullOrBlank (some extractionDir) = false

/-- What the loader reads and writes of the process. -/
structure NativeLoader where
  loaded : Bool
  jnaLibraryPath : Option Str
deriving DecidableEq, Repr

/-- What a call meets.  `resource` tells whether the library is bundled, and `extract` is all from
creating the directory to copying the file. -/
structure LoadWorld where
  resource : Except Throwable Bool
  extract : Except Throwable Unit
  load : Except Throwable Unit
  loadLibrary : Except Throwable Unit

/-- What a call does to the process. -/
inductive LoaderEffect where
  | prependsPath
  | loadsLibrary
deriving DecidableEq, Repr

/-- How a call ends. -/
structure Ensured where
  loader : NativeLoader
  result : Except Throwable Unit
  effects : List LoaderEffect
  log : List Str

def prependJnaLibraryPath (paths : LoaderPaths) (existing : Option Str) : Str :=
  match existing with
  | some path =>
    if isNullOrBlank existing then paths.extractionDir
    else paths.extractionDir ++ paths.separator ++ path
  | none => paths.extractionDir

def ensureLoaded (paths : LoaderPaths) (w : LoadWorld) (s : NativeLoader) : Ensured :=
  if s.loaded then ⟨s, .ok (), [], []⟩
  else
    match w.resource with
    | .error e => ⟨s, .error e, [], []⟩
    | .ok true =>
      match w.extract with
      | .error e => ⟨s, .error e, [], []⟩
      | .ok () =>
        let path := some (prependJnaLibraryPath paths s.jnaLibraryPath)
        match w.load with
        | .error e => ⟨⟨s.loaded, path⟩, .error e, [.prependsPath], []⟩
        | .ok () =>
          ⟨⟨true, path⟩, .ok (), [.prependsPath, .loadsLibrary],
            ["Loaded TLS+ native library from " ++ paths.target]⟩
    | .ok false =>
      let log := ["Native resource " ++ paths.resourcePath ++
        " not found; falling back to java.library.path"]
      match w.loadLibrary with
      | .error e => ⟨s, .error e, [], log⟩
      | .ok () => ⟨⟨true, s.jnaLibraryPath⟩, .ok (), [.loadsLibrary], log⟩

end TlsPlus
