import CloudAuth.Bundle.Contents
import CloudAuth.FileTree

/-!
# Platforms

What is there before anything of this library runs: a file system, and a reader of bundles. Both come from
elsewhere, and most of what is said of this library is said for all of them. What depends on the inside of
bundles is said for the reader of this project.
-/

namespace CloudAuth

/-- A reader of bundles: what a bundle holds that can be opened with a secret, or without one. -/
abbrev BundleReader := Bytes → Option Bytes → Option BundleContents

/-- A file system and a reader of bundles. -/
structure Platform where
  /-- Reads the file of a name. -/
  readFile : FileSystem
  /-- Opens a bundle. -/
  openBundle : BundleReader

/-- The platform with a file system and the reader of this project. -/
def FileSystem.platform (readFile : FileSystem) : Platform := ⟨readFile, Bundle.open?⟩

/-- The platform of a file system opens bundles with the reader of this project. -/
@[simp]
theorem FileSystem.openBundle_platform (readFile : FileSystem) :
    readFile.platform.openBundle = Bundle.open? := rfl

/-- The platform of a file system reads the files of that system. -/
@[simp]
theorem FileSystem.readFile_platform (readFile : FileSystem) : readFile.platform.readFile = readFile := rfl

/-- The platform with the files of a tree. -/
def FileTree.platform (tree : FileTree) : Platform := FileSystem.platform tree.read

end CloudAuth
