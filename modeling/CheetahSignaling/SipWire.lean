import CheetahSignaling.Sip
import CheetahSignaling.Types
import CheetahSignaling.Utf8

/-! SIP messages on the wire: header names with their compact forms, and the encoder. -/
namespace CheetahSignaling

namespace HeaderName

def maxHeaderNameBytes : Nat := 128

/-- The spellings of the known names, in the order in which they are tried. -/
def spellings : List (String × HeaderName) :=
  [("via",.via),("v",.via),("from",.from),("f",.from),("to",.to),("t",.to),("call-id",.callId),("i",.callId),
    ("cseq",.cSeq),("contact",.contact),("m",.contact),("max-forwards",.maxForwards),("user-agent",.userAgent),
    ("content-type",.contentType),("c",.contentType),("content-length",.contentLength),("l",.contentLength),
    ("expires",.expires),("route",.route),("record-route",.recordRoute),("authorization",.authorization),
    ("www-authenticate",.wwwAuthenticate),("proxy-authenticate",.proxyAuthenticate),
    ("proxy-authorization",.proxyAuthorization),("subject",.subject),("s",.subject)]

def spelled (name : String) : Option HeaderName :=
  (spellings.find? fun spelling => Str.eqIgnoreAsciiCase name.toList spelling.1.toList).map Prod.snd

def parse (name : String) : HeaderName :=
  let name := clampStr name maxHeaderNameBytes
  (spelled name).getD (.other name)

def asStr : HeaderName → String
  | .via => "Via"
  | .from => "From"
  | .to => "To"
  | .callId => "Call-ID"
  | .cSeq => "CSeq"
  | .contact => "Contact"
  | .maxForwards => "Max-Forwards"
  | .userAgent => "User-Agent"
  | .contentType => "Content-Type"
  | .contentLength => "Content-Length"
  | .expires => "Expires"
  | .route => "Route"
  | .recordRoute => "Record-Route"
  | .authorization => "Authorization"
  | .wwwAuthenticate => "WWW-Authenticate"
  | .proxyAuthenticate => "Proxy-Authenticate"
  | .proxyAuthorization => "Proxy-Authorization"
  | .subject => "Subject"
  | .other name => name

end HeaderName

namespace SipMessage

def body : SipMessage → ByteArray
  | .request _ _ body => body
  | .response _ _ body => body

end SipMessage

namespace SipEncoder

def crlf : String := "\r\n"

def version : String := "SIP/2.0"

/-- Lines are given without the CR LF behind them. -/
def encodeRequestLine (line : RequestLine) : String := line.method.name ++ " " ++ line.uri.encode ++ " " ++ version

def encodeStatusLine (line : StatusLine) : String := version ++ " " ++ toString line.code ++ " " ++ line.reason

def startLine : SipMessage → String
  | .request line _ _ => encodeRequestLine line
  | .response line _ _ => encodeStatusLine line

section

variable (headers : SipHeaders) (bodyLength : Nat)

def headerLine : HeaderName × String → String
  | (.contentLength,_) => "Content-Length: " ++ toString bodyLength
  | (name,value) => name.asStr ++ ": " ++ value

/-- The header lines; a Content-Length that is missing is added. -/
def headerLines : List String := headers.map (headerLine bodyLength) ++
    if headers.any fun header => header.1.same .contentLength then [] else ["Content-Length: " ++ toString bodyLength]

def encodeHeaders : String :=
  String.join ((headerLines headers bodyLength).map (· ++ crlf)) ++ crlf

end

def encodeMessage (message : SipMessage) : List UInt8 :=
  Utf8.bytes (startLine message ++ crlf ++ encodeHeaders message.headers message.body.size) ++ message.body.data.toList

end SipEncoder

end CheetahSignaling
