import OffChain.Network.Host

/-!
# Addresses in the network

A text is the address of something in the network if a scheme and a colon begin it.  The schemes of
the web name a host, perhaps with a user in front of it and the number of a service behind it.
Those of files can name one behind two slashes, and so can all others; nothing else that follows can
be wrong.
-/

namespace OffChain.Network

/-! ### Parts of a URL -/

/-- A character that may stand in a scheme, but not at its beginning. -/
def isSchemeChar (c : Char) : Bool :=
  c.isAlphanum || c == '+' || c == '-' || c == '.'

/-- A control character or a blank, which does not count at either end of a URL. -/
def isMargin (c : Char) : Bool :=
  c.toNat ≤ 32

/-- A line break or a tab, which does not count anywhere in a URL. -/
def isBreak (c : Char) : Bool :=
  c == '\n' || c == '\r' || c == '\t'

/-- The characters of a text that count in a URL. -/
def significant (s : String) : List Char :=
  (((s.toList.dropWhile isMargin).reverse.dropWhile isMargin).reverse).filter fun c => !isBreak c

/-- The scheme in small letters and what follows its colon. -/
def splitScheme? (cs : List Char) : Option (String × List Char) :=
  let scheme := cs.takeWhile isSchemeChar
  match scheme, cs.dropWhile isSchemeChar with
  | c :: _, ':' :: rest =>
    if c.isAlpha then some (String.ofList (scheme.map Char.toLower), rest) else none
  | _, _ => none

/-- A slash of either kind. -/
def isSlash (c : Char) : Bool :=
  c == '/' || c == '\\'

/-! ### Kinds of schemes -/

/-- What follows a scheme. -/
inductive SchemeKind where
  /-- A host of the web. -/
  | web
  /-- A file, perhaps of some host. -/
  | file
  /-- Anything. -/
  | other
deriving DecidableEq, Repr

namespace SchemeKind

/-- The kind of a scheme. -/
def ofName (name : String) : SchemeKind :=
  if ["http", "https", "ws", "wss", "ftp"].contains name then web
  else if name = "file" then file
  else other

/-- Whether a character ends the part of a URL that names the host. -/
def endsAuthority (kind : SchemeKind) (c : Char) : Bool :=
  c == '/' || c == '?' || c == '#' || (kind = web && c == '\\')

end SchemeKind

/-! ### Users, hosts and services -/

/-- The user in front of a host, if one is named, and what follows. -/
def splitUser (kind : SchemeKind) (cs : List Char) : Option (List Char) × List Char :=
  let authority := cs.takeWhile fun c => !kind.endsAuthority c
  if authority.contains '@' then
    let host := (authority.reverse.takeWhile fun c => c != '@').reverse
    (some (authority.take (authority.length - host.length - 1)),
      host ++ cs.drop authority.length)
  else (none, cs)

/-- The host at the beginning of a text and what follows it; a colon ends it, unless it stands in
brackets. -/
def splitHost (kind : SchemeKind) (isBracketed : Bool) : List Char → List Char × List Char
  | [] => ([], [])
  | c :: cs =>
    if (c == ':' && !isBracketed) || kind.endsAuthority c then ([], c :: cs)
    else
      let (host, rest) :=
        splitHost kind (if c == '[' then true else if c == ']' then false else isBracketed) cs
      (c :: host, rest)

/-- Whether what follows a host is well formed: if it is a service, the number of one has 16 bits
and nothing else follows before a slash or the like. -/
def isBehindHost : List Char → Bool
  | ':' :: cs =>
    Decimal.value (cs.takeWhile Char.isDigit) < 65536
      && (cs.dropWhile Char.isDigit).head?.all fun c => isSlash c || c == '?' || c == '#'
  | _ => true

/-- Whether a text names a host, perhaps with a user and a service. -/
def isAuthority (kind : SchemeKind) (cs : List Char) : Bool :=
  let (user, rest) := splitUser kind cs
  let (host, behind) := splitHost kind false rest
  let isHost :=
    if host.isEmpty then
      kind = .other && behind.head? != some ':'
        && user.all fun u => (u.isEmpty && behind.isEmpty) || u == [':']
    else if kind = .web then Host.isWebHost host
    else Host.isOtherHost host
  isHost && isBehindHost behind

/-! ### Hosts of files -/

/-- Whether a text is the letter of a drive. -/
def isDrive : List Char → Bool
  | [c, d] => c.isAlpha && (d == ':' || d == '|')
  | _ => false

/-- Whether what follows the scheme of a file is well formed. -/
def isFileRest : List Char → Bool
  | a :: b :: cs =>
    let host := cs.takeWhile fun c => !isSlash c && c != '?' && c != '#'
    !(isSlash a && isSlash b) || host.isEmpty || isDrive host || Host.isWebHost host
  | _ => true

/-! ### URLs -/

/-- Whether what follows a scheme is well formed. -/
def isRest (kind : SchemeKind) (cs : List Char) : Bool :=
  match kind with
  | .web => isAuthority .web (cs.dropWhile isSlash)
  | .file => isFileRest cs
  | .other =>
    match cs with
    | '/' :: '/' :: authority => isAuthority .other authority
    | _ => true

/-- The scheme of a URL; `none` for a text that is none. -/
def scheme? (s : String) : Option String :=
  (splitScheme? (significant s)).bind fun (scheme, rest) =>
    if isRest (SchemeKind.ofName scheme) rest then some scheme else none

/-- Whether a text is a URL. -/
def isUrl (s : String) : Bool :=
  (scheme? s).isSome

end OffChain.Network
