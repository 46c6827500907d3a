import VpExchange.Url.Host

set_option autoImplicit false

namespace VpExchange

-- The path of a URL: segments, each behind a slash, or text that no other path can be resolved against.
inductive Url.Path where
  | segments (ss : List String)
  | rootless (s : String)
deriving DecidableEq, Repr

structure Url.Authority where
  -- Name, password and the signs between and behind them.
  userinfo : String
  host : String
  port : Option Nat
deriving DecidableEq, Repr

structure Url where
  scheme : String
  authority : Option Url.Authority
  path : Url.Path
  query : Option String
  fragment : Option String
deriving DecidableEq, Repr

namespace Url

def defaultPort? (scheme : String) : Option Nat :=
  if scheme = "http" ∨ scheme = "ws" then some 80
  else if scheme = "https" ∨ scheme = "wss" then some 443
  else if scheme = "ftp" then some 21
  else none

def isFile (scheme : String) : Bool := scheme == "file"

def isSpecial (scheme : String) : Bool := isFile scheme || (defaultPort? scheme).isSome

def Authority.text (a : Authority) : String :=
  "//" ++ a.userinfo ++ a.host ++
    match a.port with
    | some n => ":" ++ toString n
    | none => ""

def Path.text (hasAuthority : Bool) : Path → String
  | .segments ss =>
    let lead := match hasAuthority, ss with
      | false, "" :: _ :: _ => "/."
      | _, _ => ""
    lead ++ String.join (ss.map ("/" ++ ·))
  | .rootless s => s

def text (u : Url) : String :=
  u.scheme ++ ":" ++ (u.authority.elim "" Authority.text) ++
    u.path.text u.authority.isSome ++
    (u.query.elim "" ("?" ++ ·)) ++ (u.fragment.elim "" ("#" ++ ·))

end Url

end VpExchange
