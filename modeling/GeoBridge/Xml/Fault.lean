/-!
Owns the reasons for which a document cannot be read.
-/

namespace GeoBridge.Xml

/-- Why the encoding that a document names is of no use: it is not known, transforms something else
than text, has characters of several octets, refuses octets beyond ASCII, or refuses to decode
octets one by one. -/
inductive EncodingProblem where
  | unknown (name : String)
  | transformation (name : String)
  | severalOctets
  | beyondAscii
  | undecodable
deriving DecidableEq, Repr

/-- Why a document cannot be read. -/
inductive Fault where
  | malformed
  | entityDeclared (name : String) (systemId publicId : Option String)
  | encoding (problem : EncodingProblem)
deriving DecidableEq, Repr

/-- The wording of a problem with an encoding. -/
def EncodingProblem.message : EncodingProblem → String
  | .unknown name => "unknown encoding: " ++ name
  | .transformation name =>
      "'" ++ name ++ "' is not a text encoding; use codecs.decode() to handle arbitrary codecs"
  | .severalOctets => "multi-byte encodings are not supported"
  | .beyondAscii => "octets beyond ASCII cannot be decoded"
  | .undecodable => "octets cannot be decoded one by one"

end GeoBridge.Xml
