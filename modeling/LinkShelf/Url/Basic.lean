import LinkShelf.Url.Host

/-! Addresses of links. -/
namespace LinkShelf

structure Url.Authority where
  user : List Char := []
  password : List Char := []
  host : Url.Host
  port : Option Nat := none
  deriving DecidableEq, Repr

/-- An address; its parts are written as they stand in it. -/
structure Url where
  scheme : List Char
  authority : Option Url.Authority := none
  path : List Char := []
  query : Option (List Char) := none
  fragment : Option (List Char) := none
  deriving DecidableEq, Repr

namespace Url

def Authority.chars (a : Authority) : List Char :=
  a.user ++ (if a.password.isEmpty then [] else ':' :: a.password) ++
    (if a.user.isEmpty && a.password.isEmpty then [] else ['@']) ++ a.host.chars ++
    (match a.port with
      | some n => ':' :: Nat.toDigits 10 n
      | none => [])

/-- The path, with a point in front where it would be taken for an authority. -/
def pathChars (u : Url) : List Char :=
  if u.authority.isNone && ['/', '/'].isPrefixOf u.path then '/' :: '.' :: u.path else u.path

def chars (u : Url) : List Char :=
  u.scheme ++ ':' ::
    (match u.authority with
      | some a => '/' :: '/' :: a.chars
      | none => []) ++
    u.pathChars ++
    (match u.query with
      | some q => '?' :: q
      | none => []) ++
    (match u.fragment with
      | some f => '#' :: f
      | none => [])

def toString (u : Url) : String := String.ofList u.chars

end Url
end LinkShelf
