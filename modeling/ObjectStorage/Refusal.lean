import ObjectStorage.Error
import ObjectStorage.Headers
import ObjectStorage.Json.Decode
import ObjectStorage.Xml.Record

/-!
# Refusals

The body of an answer that says why a request failed: a record with a code, in JSON or in XML. A
body without a code is quoted as it is.
-/
namespace ObjectStorage.Refusal

def blank : Refusal := ⟨"", "", "", ""⟩

def codeField : String := "Code"

def messageField : String := "Message"

def requestField : String := "RequestId"

def hostField : String := "HostId"

def fieldNames : List String := [codeField, messageField, requestField, hostField]

open Json in
def shape : Json.Shape Refusal where
  name := "ErrorEnvelope"
  fields := [
    ⟨codeField, false, fun t => do
      let v ← Tree.toText t
      return fun r => { r with code := v }⟩,
    ⟨messageField, false, fun t => do
      let v ← Tree.toText t
      return fun r => { r with message := v }⟩,
    ⟨requestField, false, fun t => do
      let v ← Tree.toText t
      return fun r => { r with requestId := v }⟩,
    ⟨hostField, false, fun t => do
      let v ← Tree.toText t
      return fun r => { r with hostId := v }⟩]
  blank := blank

def ofJson? (text : List Char) : Option Refusal :=
  (Json.decode shape.read (Utf8.encode text)).toOption

def fieldOf (es : List Xml.Entry) (name : String) : String :=
  match es.find? (·.1 == name) with
  | some e => String.ofList e.2
  | none => ""

def ofXml? (text : List Char) : Option Refusal :=
  (Xml.record? fieldNames text).map fun es =>
    ⟨fieldOf es codeField, fieldOf es messageField, fieldOf es requestField, fieldOf es hostField⟩

/-- A text that is a record in JSON is not tried as XML. -/
def ofText? (text : List Char) : Option Refusal :=
  (ofJson? text <|> ofXml? text).filter fun r => !r.code.isEmpty

def requestIdHeader : String := "x-tos-request-id"

def requestId? (h : Headers) : Option String := h.text? requestIdHeader

def quotedChars : Nat := 200

def toError (status : Nat) (h : Headers) (text : List Char) : Error :=
  match ofText? text with
  | some r =>
    .service status
      { r with requestId := if r.requestId.isEmpty then (requestId? h).getD "" else r.requestId }
  | none => .unreadable status (String.ofList (text.take quotedChars)) (requestId? h)

end ObjectStorage.Refusal
