/-!
# Content types

What a network rule says about the kind of thing that is loaded.  A modifier of a rule names a
content type by its name or by a shorter one.

Two more words are accepted where a content type is named.  Names are looked up among the properties
of an object, and every object inherits two properties whose names have no capitals, `constructor`
and `__proto__`.  So these words are found there although no content type has been put under them;
names of inherited properties with capitals are not, because a modifier is looked up in lower case.
What is found is told apart from every content type, and the one from the other, and it stands for no
kind of resource.
-/

set_option autoImplicit false
namespace ContentBlocker

/-- The name of an inherited property, which is accepted as that of a content type although it stands
for none. -/
inductive ReservedWord where
  | constructorWord
  | prototypeWord
  deriving DecidableEq

/-- A content type, as rules name it. -/
inductive ContentType where
  /-- Every kind of thing. -/
  | all
  | image
  | stylesheet
  | script
  | media
  | xmlHttpRequest
  | other
  | webSocket
  | ping
  | font
  | subdocument
  | document
  | object
  | objectSubrequest
  | webRtc
  | reserved (word : ReservedWord)
  deriving DecidableEq

namespace ContentType

/-- The name of a content type. -/
def name : ContentType → String
  | .all => "all"
  | .image => "image"
  | .stylesheet => "stylesheet"
  | .script => "script"
  | .media => "media"
  | .xmlHttpRequest => "xmlhttprequest"
  | .other => "other"
  | .webSocket => "websocket"
  | .ping => "ping"
  | .font => "font"
  | .subdocument => "subdocument"
  | .document => "document"
  | .object => "object"
  | .objectSubrequest => "object-subrequest"
  | .webRtc => "webrtc"
  | .reserved .constructorWord => "constructor"
  | .reserved .prototypeWord => "__proto__"

/-- The content types that have a name of their own. -/
def documented : List ContentType :=
  [.all, .image, .stylesheet, .script, .media, .xmlHttpRequest, .other, .webSocket, .ping, .font,
   .subdocument, .document, .object, .objectSubrequest, .webRtc]

/-- The content type with a given name. -/
def ofName? (name : String) : Option ContentType :=
  documented.find? (·.name == name)

/-- The content types that a modifier can name, and the names by which it does.  That a rule is
about documents is said by a modifier of its own. -/
def modifierNames : List (String × ContentType) :=
  [("all", .all), ("image", .image), ("stylesheet", .stylesheet), ("css", .stylesheet),
   ("script", .script), ("media", .media), ("xmlhttprequest", .xmlHttpRequest),
   ("xhr", .xmlHttpRequest), ("other", .other), ("websocket", .webSocket), ("ping", .ping),
   ("font", .font), ("subdocument", .subdocument), ("frame", .subdocument), ("object", .object),
   ("object-subrequest", .objectSubrequest), ("webrtc", .webRtc),
   ("constructor", .reserved .constructorWord), ("__proto__", .reserved .prototypeWord)]

/-- The content type that a modifier names. -/
def ofModifier? (name : String) : Option ContentType :=
  modifierNames.lookup name

theorem ofName?_name {t : ContentType} (h : t ∈ documented) : ofName? t.name = some t := by
  revert t
  decide

end ContentType
end ContentBlocker
