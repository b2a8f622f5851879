import Bindery.Native.Error
import Bindery.Project.Manifest

/-!
# Faults of commands

Why a command on a project fails. A message names what was being done, then what failed.
-/

namespace Bindery

inductive CommandError where
  | readingManifest (path : Path)
  | manifest (path : Path) (e : ManifestError)
  | manifestNotFound (directory : Path)
  | loadingDeclarations (path : Path) (e : Native.DocumentError)
  | loadingDocument (path : Path) (e : Native.DocumentError)
  | preparing (e : BindingError)
  | notPrepared (package : String)
  | unknownFormat (format : String)
  | creating (path : Path)
  | writing (path : Path)
  | renderingStubs (package : String) (e : BindingError)
  | renderingHeader (package : String) (e : BindingError)
  deriving DecidableEq, Repr

namespace CommandError

def message : CommandError → String
  | readingManifest path => "reading " ++ path
  | manifest path .malformed => "parsing " ++ path
  | manifest _ .pointerWidthZero => "pointer-width must be positive"
  | manifest _ .unnamedPackage => "every [[package]] needs a name"
  | manifestNotFound directory =>
    "no " ++ Manifest.fileName ++ " found in " ++ directory ++ " or any parent"
  | loadingDeclarations path e => "loading declarations from " ++ path ++ ": " ++ e.message
  | loadingDocument path e => "loading " ++ path ++ ": " ++ e.message
  | preparing e => "preparing packages: " ++ e.message
  | notPrepared package => "package '" ++ package ++ "' was not prepared"
  | unknownFormat format => "unknown export format '" ++ format ++ "' (expected text or json)"
  | creating path => "creating " ++ path
  | writing path => "writing " ++ path
  | renderingStubs package e => "rendering trampolines for " ++ package ++ ": " ++ e.message
  | renderingHeader package e => "rendering header for " ++ package ++ ": " ++ e.message

end CommandError

end Bindery
