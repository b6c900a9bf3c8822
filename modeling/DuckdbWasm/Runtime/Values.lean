import Mathlib.Data.List.Basic

/-! # Values crossing the browser runtime's boundaries

Numbers read out of header text, thrown values, JavaScript `Map`s, the file records the
engine serializes, and the requests and answers of a synchronous `XMLHttpRequest`.
-/
namespace DuckdbWasm

/-- A number produced by unary plus on header text: `NaN`, or an integer. -/
inductive JsNumber where
  | nan
  | num (value : Int)
  deriving DecidableEq, Repr

namespace JsNumber

/-- JavaScript `==` on two numbers: `NaN` equals nothing. -/
def looseEq : JsNumber → JsNumber → Bool
  | .num a, .num b => a == b
  | _, _ => false

/-- JavaScript `x > b`; every comparison with `NaN` is false. -/
def gt : JsNumber → Int → Bool
  | .num a, b => b < a
  | .nan, _ => false

@[simp] theorem looseEq_num (a b : Int) : looseEq (.num a) (.num b) = (a == b) := rfl
@[simp] theorem looseEq_nan (x : JsNumber) : looseEq .nan x = false := by cases x <;> rfl
@[simp] theorem gt_num (a b : Int) : gt (.num a) b = decide (b < a) := rfl

end JsNumber

/-- `s.startsWith(pre)`: `pre` is a prefix of `s`, character by character. -/
def startsWith (s pre : String) : Bool := pre.toList.isPrefixOf s.toList

/-- A value raised by `throw`: an `Error` or `DOMException` by name and message, or a string. -/
inductive Thrown where
  | error (name message : String)
  | string (text : String)
  deriving DecidableEq, Repr

namespace Thrown

/-- `e.toString()`. -/
def toString : Thrown → String
  | .error name message => name ++ ": " ++ message
  | .string text => text

/-- `e.message`, which a thrown string does not have. -/
def message : Thrown → String
  | .error _ message => message
  | .string _ => "undefined"

end Thrown

/-- `new Error(message)`. -/
def jsError (message : String) : Thrown := .error "Error" message

/-- The `TypeError` of reading `property` from `undefined`. -/
def undefinedProperty (property : String) : Thrown :=
  .error "TypeError" ("Cannot read properties of undefined (reading \x27" ++ property ++ "\x27)")

/-- A JavaScript `Map` as its entries in insertion order. -/
abbrev JsMap (κ ν : Type) := List (κ × ν)

namespace JsMap
variable {κ ν : Type} [DecidableEq κ]

/-- `map.get(k)`. -/
def get : JsMap κ ν → κ → Option ν
  | [], _ => none
  | e :: m, k => if e.1 = k then some e.2 else get m k

/-- `map.set(k, v)`: an existing key keeps its place, a new one goes last. -/
def set : JsMap κ ν → κ → ν → JsMap κ ν
  | [], k, v => [(k, v)]
  | e :: m, k, v => if e.1 = k then (k, v) :: m else e :: set m k v

/-- `map.delete(k)`. -/
def delete (m : JsMap κ ν) (k : κ) : JsMap κ ν := m.filter (fun e => e.1 ≠ k)

@[simp] theorem get_nil (k : κ) : get ([] : JsMap κ ν) k = none := rfl

theorem get_cons (e : κ × ν) (m : JsMap κ ν) (k : κ) :
    get (e :: m) k = if e.1 = k then some e.2 else get m k := rfl

@[simp] theorem get_set_self (m : JsMap κ ν) (k : κ) (v : ν) : get (set m k v) k = some v := by
  induction m with
  | nil => simp [set, get]
  | cons e m ih => by_cases h : e.1 = k <;> simp [set, get, h, ih]

@[simp] theorem get_set_ne (m : JsMap κ ν) {k k' : κ} (v : ν) (h : k ≠ k') :
    get (set m k v) k' = get m k' := by
  induction m with
  | nil => simp [set, get, h]
  | cons e m ih => by_cases he : e.1 = k <;> simp [set, get, he, h, ih]

@[simp] theorem get_delete_self (m : JsMap κ ν) (k : κ) : get (delete m k) k = none := by
  induction m with
  | nil => rfl
  | cons e m ih => by_cases h : e.1 = k <;> simp_all [delete, get, List.filter_cons]

@[simp] theorem get_delete_ne (m : JsMap κ ν) {k k' : κ} (h : k ≠ k') :
    get (delete m k) k' = get m k' := by
  induction m with
  | nil => rfl
  | cons e m ih =>
    by_cases he : e.1 = k
    · have : e.1 ≠ k' := he ▸ h
      simp_all [delete, get, List.filter_cons]
    · by_cases he' : e.1 = k' <;> simp_all [delete, get, List.filter_cons]

end JsMap

/-- DuckDBDataProtocol. -/
inductive DataProtocol where
  | BUFFER
  | NODE_FS
  | BROWSER_FILEREADER
  | BROWSER_FSACCESS
  | HTTP
  | S3
  deriving DecidableEq, Repr

/-- The S3 settings of a file; only getHTTPUrl and addS3Headers look inside them. -/
structure S3Config where
  settings : List (String × String)
  deriving DecidableEq, Repr

/-- DuckDBFileInfo as the engine serializes it; the `blob` the runtime adds is always null. -/
structure FileInfo where
  cacheEpoch : Nat
  fileId : Nat
  fileName : String
  dataProtocol : DataProtocol
  dataUrl : Option String
  allowFullHttpReads : Bool
  reliableHeadRequests : Bool
  s3Config : Option S3Config
  deriving DecidableEq, Repr

/-- DuckDBGlobalFileInfo, the settings of paths that belong to no file id. -/
structure GlobalFileInfo where
  cacheEpoch : Nat
  s3Config : Option S3Config
  allowFullHttpReads : Bool
  deriving DecidableEq, Repr

inductive HttpMethod where
  | HEAD
  | GET
  | PUT
  deriving DecidableEq, Repr

/-- The header `Range: bytes=first-last`; `last = none` is the open form `bytes=first-`. -/
structure ByteRange where
  first : Nat
  last : Option Nat
  deriving DecidableEq, Repr

/-- The arguments of one addS3Headers call. -/
structure S3Signature where
  config : Option S3Config
  path : Option String
  method : HttpMethod
  contentType : Option String
  payload : Option (List UInt8)
  deriving DecidableEq, Repr

/-- A synchronous `XMLHttpRequest` as it is sent: `open(method, url, false)`, its Range
header, the headers addS3Headers added, and the body handed to `send`. -/
structure Request where
  method : HttpMethod
  url : String
  range : Option ByteRange
  signature : Option S3Signature
  body : Option (List UInt8)
  deriving DecidableEq, Repr

/-- The Content-Range header as openFile reads it: `split('/')[1]`, then unary plus; `total`
is `none` when the header has no slash. -/
structure ContentRange where
  total : Option JsNumber
  deriving DecidableEq, Repr

/-- What a request that completed exposes: status, the two length headers (`none` when
absent or hidden from the page) and the response as an `ArrayBuffer`. -/
structure Response where
  status : Nat
  statusText : String
  contentLength : Option JsNumber
  contentRange : Option ContentRange
  body : List UInt8
  deriving DecidableEq, Repr

/-- The server's answer to one request, or the network error `send` throws. -/
inductive Answer where
  | response (r : Response)
  | abort (error : Thrown)
  deriving DecidableEq, Repr

end DuckdbWasm
