import Conveyance.Text.Basic

/-!
# Storage/Place — where finished documents are kept

A document is kept in a folder of this machine or in a bucket of a remote object store.  Either way
it has a public address, `Place.address`: the place's base address, then the name of the object.
**Slashes where the two meet count once.**
-/

namespace Conveyance

/-- A bucket of a remote object store. -/
structure BucketPlace where
  /-- The address of the store. -/
  url : Text
  serviceKey : Text
  bucket : Text
  deriving DecidableEq, Repr

/-- A folder of this machine. -/
structure FolderPlace where
  directory : Text
  /-- The address under which the folder is served. -/
  publicUrl : Text
  deriving DecidableEq, Repr

/-- Where finished documents are kept. -/
inductive Place where
  | folder (place : FolderPlace)
  | bucket (place : BucketPlace)
  deriving DecidableEq, Repr

/-- A text without the slashes at its start. -/
def withoutSlashesBefore (t : Text) : Text := t.dropWhile (· == '/')

/-- A text without the slashes at its end. -/
def withoutSlashesAfter (t : Text) : Text := Text.trimEndBy (· == '/') t

/-- The public address of an object in a folder. -/
def FolderPlace.address (p : FolderPlace) (object : Text) : Text :=
  withoutSlashesAfter p.publicUrl ++ '/' :: withoutSlashesBefore object

/-- The address of an object in a bucket, below a given entry point of the store. -/
def BucketPlace.below (p : BucketPlace) (entry : String) (object : Text) : Text :=
  p.url ++ entry.toList ++ p.bucket ++ '/' :: withoutSlashesBefore object

/-- The public address of an object in a bucket. -/
def BucketPlace.address (p : BucketPlace) (object : Text) : Text :=
  p.below "/storage/v1/object/public/" object

/-- **The public address of an object.** -/
def Place.address : Place → Text → Text
  | folder p => p.address
  | bucket p => p.address

end Conveyance
