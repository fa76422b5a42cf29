/-
This file holds URLs in their parts and writes them as text.
-/

import ModuleGraph.Url.Host

namespace ModuleGraph

namespace Url

/-- The part of a URL between the double slash and the path. -/
structure Authority where
  username : String
  password : Option String
  host : Host
  port : Option Nat
  deriving DecidableEq, Repr

def Authority.ofHost (host : Host) : Authority :=
  ⟨"", none, host, none⟩

/-- The path of a URL, in segments unless no slash starts it. -/
inductive UrlPath where
  | flat (text : String)
  | segmented (segments : List String)
  deriving DecidableEq, Repr

end Url

structure Url where
  scheme : String
  authority : Option Url.Authority
  path : Url.UrlPath
  query : Option String
  fragment : Option String
  deriving DecidableEq, Repr

namespace Url

/-- The schemes whose URLs always have a host, and the ports they take for granted. -/
def specialPorts : List (String × Option Nat) :=
  [("http", some 80), ("https", some 443), ("ws", some 80), ("wss", some 443),
    ("ftp", some 21), ("file", none)]

def isSpecial (scheme : String) : Bool :=
  specialPorts.any fun entry => entry.1 == scheme

def defaultPort? (scheme : String) : Option Nat :=
  (specialPorts.find? fun entry => entry.1 == scheme).bind Prod.snd

def UrlPath.toText : UrlPath → String
  | flat text => text
  | segmented segments => String.join (segments.map fun segment => "/" ++ segment)

def UrlPath.segments : UrlPath → List String
  | flat _ => []
  | segmented segments => segments

/-- A URL with a flat path has nothing to resolve a path against. -/
def cannotBeBase (url : Url) : Bool :=
  match url.path with
  | .flat _ => true
  | .segmented _ => false

def Authority.toText (authority : Authority) : String :=
  let password := match authority.password with
    | none => ""
    | some password => ":" ++ password
  let user := authority.username ++ password
  let port := match authority.port with
    | none => ""
    | some port => ":" ++ toString port
  (if user.isEmpty then "" else user ++ "@") ++ String.ofList authority.host.render ++ port

/-- Without an authority a path must not start with two slashes, so `/.` goes in front. -/
def toText (url : Url) : String :=
  let path := url.path.toText
  let front := match url.authority with
    | some authority => "//" ++ authority.toText
    | none => if Text.startsWith path "//" then "/." else ""
  let query := match url.query with
    | none => ""
    | some query => "?" ++ query
  let fragment := match url.fragment with
    | none => ""
    | some fragment => "#" ++ fragment
  url.scheme ++ ":" ++ front ++ path ++ query ++ fragment

end Url

end ModuleGraph
