import Conveyance.Storage.Http
import Conveyance.Storage.MediaType
import Conveyance.Storage.Place

/-!
# Storage/Bucket — objects kept in a bucket of a remote store

An object is stored by one request and removed by another.  `uploadRequest` and `deleteRequest` say
what is sent, `uploaded` and `deleted` what comes of it, and `upload` and `delete` do both with a
`Remote` store.  **Only a status in the two hundreds is success.**
-/

namespace Conveyance.BucketPlace

/-- The address that an object is sent to. -/
def objectUrl? (p : BucketPlace) (object : Text) : Option Url.Address :=
  Url.address? (p.below "/storage/v1/object/" object)

/-- What names the sender. -/
def credentials (p : BucketPlace) : List (String × Text) :=
  [("authorization", "Bearer ".toList ++ p.serviceKey), ("apikey", p.serviceKey)]

/-- The request that stores an object, in the place of one of the same name. -/
def uploadRequest (p : BucketPlace) (object : Text) (bytes : List UInt8) :
    Except HttpFault HttpRequest :=
  HttpRequest.build "POST" (p.objectUrl? object)
    (p.credentials ++ [("content-type", MediaType.ofName object), ("x-upsert", "true".toList)]) bytes

/-- The request that removes an object. -/
def deleteRequest (p : BucketPlace) (object : Text) : Except HttpFault HttpRequest :=
  HttpRequest.build "DELETE" (p.objectUrl? object) p.credentials []

/-- What was tried with an object, and why it failed. -/
def failed (verb : String) (object : Text) (f : HttpFault) : Text :=
  "Failed to ".toList ++ verb.toList ++ ' ' :: object ++ ": ".toList ++ f.message

/-- **What the outcome of an upload means.** -/
def uploaded (object : Text) : Except HttpFault HttpReply → Except Text Unit
  | .error f => .error (failed "upload" object f)
  | .ok r =>
    if r.isSuccess then .ok ()
    else .error ("Upload of ".toList ++ object ++ " failed with status ".toList ++ r.statusText ++
      ": ".toList ++ r.text)

/-- **What the outcome of a removal means.** -/
def deleted (object : Text) : Except HttpFault HttpReply → Except Text Unit
  | .error f => .error (failed "delete" object f)
  | .ok r =>
    if r.isSuccess then .ok ()
    else .error ("Delete of ".toList ++ object ++ " failed with status ".toList ++ r.statusText)

/-- A store that answers requests, or does not. -/
abbrev Remote := HttpRequest → Option HttpReply

/-- An object stored. -/
def upload (p : BucketPlace) (remote : Remote) (object : Text) (bytes : List UInt8) :
    Except Text Unit :=
  uploaded object ((p.uploadRequest object bytes).bind fun r => r.outcome (remote r))

/-- An object removed. -/
def delete (p : BucketPlace) (remote : Remote) (object : Text) : Except Text Unit :=
  deleted object ((p.deleteRequest object).bind fun r => r.outcome (remote r))

end Conveyance.BucketPlace
