import ContentSource.Request

/-! # Responses

A response is what a fetch or a hook yields: the bytes of a body, the request that led to it, and
the location it came from. Its text is the body read in the charset of that request.
-/
namespace ContentSource

structure Response where
  body : List UInt8
  request : Request
  location : String
deriving DecidableEq, Inhabited

namespace Response

def text (r : Response) : String := r.request.charset.decode r.body

/-- The response whose body is a text written in the charset of its request. -/
def ofText (text : String) (request : Request) (location : String) : Response :=
  ⟨request.charset.encode text, request, location⟩

end Response

end ContentSource
