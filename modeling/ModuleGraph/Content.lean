/-
This file describes what a file holds and how its path says to treat it.
-/

import ModuleGraph.Path

namespace ModuleGraph

inductive Content where
  | text (value : String)
  | bytes (value : ByteArray)
  deriving Inhabited

namespace Content

instance : DecidableEq Content
  | text first, text second => decidable_of_iff (first = second) (by simp)
  | bytes first, bytes second =>
      @decidable_of_iff _ (first = second) (by simp) (ByteArray.instDecidableEq first second)
  | text _, bytes _ => isFalse (by simp)
  | bytes _, text _ => isFalse (by simp)

def toBytes : Content → ByteArray
  | text value => value.toUTF8
  | bytes value => value

/-- The text that the bytes spell, if they are UTF-8. -/
def toText? : Content → Option String
  | text value => some value
  | bytes value => String.fromUTF8? value

def size (content : Content) : Nat :=
  content.toBytes.size

/-- Bytes become text whenever they are UTF-8. -/
def ofBytes (value : ByteArray) : Content :=
  match String.fromUTF8? value with
  | some decoded => text decoded
  | none => bytes value

end Content

/-- How a module is to be treated. -/
inductive ContentKind where
  | script
  | scriptJsx
  | style
  | data
  | text
  | binary
  deriving DecidableEq, Repr, Inhabited

namespace ContentKind

/-- The tag that reports and answers show. -/
def tag : ContentKind → String
  | script => "js"
  | scriptJsx => "jsx"
  | style => "css"
  | data => "json"
  | text => "text"
  | binary => "binary"

def ofTag? (written : String) : Option ContentKind :=
  [script, scriptJsx, style, data, text, binary].find? fun kind => kind.tag == written

def isTextual (kind : ContentKind) : Bool :=
  kind != binary

def isScript (kind : ContentKind) : Bool :=
  kind == script || kind == scriptJsx

/-- The extensions of each kind, in small letters. -/
def extensions : ContentKind → List String
  | script => [".js", ".mjs", ".cjs", ".ts", ".mts", ".cts"]
  | scriptJsx => [".jsx", ".tsx"]
  | style => [".css", ".scss", ".sass", ".less"]
  | data => [".json", ".jsonc", ".map"]
  | text => [".txt", ".md", ".html", ".htm", ".svg", ".csv"]
  | binary =>
      [".png", ".jpg", ".jpeg", ".gif", ".webp", ".avif", ".ico", ".woff", ".woff2", ".ttf",
        ".otf", ".eot", ".wasm", ".mp3", ".mp4", ".webm", ".pdf", ".zip"]

/-- The kind that the extension of a path names; a path with any other extension is a script. -/
def ofPath (path : String) : ContentKind :=
  let extension := Text.lowerAscii (Path.extension path)
  ([scriptJsx, style, data, text, binary].find? fun kind =>
    kind.extensions.contains extension).getD script

end ContentKind

end ModuleGraph
