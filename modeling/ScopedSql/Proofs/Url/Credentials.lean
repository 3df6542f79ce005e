import Mathlib.Data.List.TakeWhile
import ScopedSql.Url.Basic

namespace ScopedSql

/-!
# Credentials in addresses

The credentials of an address are taken from what stands before the last `@` of
its authority, and nothing else is.  So two addresses that differ only there, and
that can both be read, have the same host, port, path and query.
-/

/-! ## Cuts in a text -/

namespace Text

theorem takeWhile_of_clear {stop : Char -> Bool} {mark : Char} {before : List Char}
    (clear : forall c, c ∈ before -> stop c = false) (stays : stop mark = false)
    (after : List Char) :
    (before ++ mark :: after).takeWhile (fun c => !stop c) =
      before ++ mark :: after.takeWhile (fun c => !stop c) := by
  rw [List.takeWhile_append_of_pos (fun c member => by rw [clear c member]; rfl),
    List.takeWhile_cons_of_pos (by rw [stays]; rfl)]

theorem dropWhile_of_clear {stop : Char -> Bool} {mark : Char} {before : List Char}
    (clear : forall c, c ∈ before -> stop c = false) (stays : stop mark = false)
    (after : List Char) :
    (before ++ mark :: after).dropWhile (fun c => !stop c) = after.dropWhile (fun c => !stop c) := by
  rw [List.dropWhile_append_of_pos (fun c member => by rw [clear c member]; rfl),
    List.dropWhile_cons_of_pos (by rw [stays]; rfl)]

theorem mem_takeWhile_of_prefix {p : Char -> Bool} {c : Char} {part whole : List Char}
    (isPart : part <+: whole) (member : c ∈ part.takeWhile p) : c ∈ whole.takeWhile p := by
  rcases isPart with ⟨after, rfl⟩
  rw [List.takeWhile_append]
  split
  · exact List.mem_append_left _ ((List.takeWhile_sublist p).subset member)
  · exact member

/-- A text is cut at a separator behind which there is no other. -/
theorem splitAtLast?_of_last {separator : Char} {after : List Char}
    (last : separator ∉ after) (before : List Char) :
    splitAtLast? separator (before ++ separator :: after) = some (before, after) := by
  have found : (before ++ separator :: after).contains separator = true := by simp
  have behind : ((before ++ separator :: after).reverse.takeWhile
      (fun c => c ≠ separator)).reverse = after := by
    have clear : forall c, c ∈ after.reverse -> decide (c ≠ separator) = true := by
      intro c member
      apply decide_eq_true
      rintro rfl
      exact last (List.mem_reverse.mp member)
    rw [List.reverse_append, List.reverse_cons, List.append_assoc,
      List.takeWhile_append_of_pos clear]
    simp
  have front : (before ++ separator :: after).length - after.length - 1 = before.length := by
    rw [List.length_append, List.length_cons]
    omega
  rw [splitAtLast?, if_pos found]
  simp only [behind, front, List.take_left]

/-- A character that is there stands somewhere for the last time. -/
theorem exists_last {mark : Char} {cs : List Char} (there : mark ∈ cs) :
    exists before after, cs = before ++ mark :: after ∧ mark ∉ after := by
  rcases List.eq_append_cons_of_mem (List.mem_reverse.mpr there) with ⟨back, front, cut, none⟩
  refine ⟨front.reverse, back.reverse, ?_, fun member => none (List.mem_reverse.mp member)⟩
  rw [← List.reverse_reverse cs, cut]
  simp

end Text

namespace Url

/-! ## Authorities -/

/-- Does a character end an authority? -/
abbrev ends (scheme : List Char) : Char -> Bool :=
  endsAuthority (isWeb scheme)

/-- What is read of an authority apart from its credentials. -/
theorem readHostAndPort_eq_some {web : Bool} {user : List Char} {password : Option (List Char)}
    {cs rest : List Char} {authority : Authority}
    (read : readHostAndPort web user password cs = some (authority, rest)) :
    exists host port, readHost web (splitHost false cs).1 = some host ∧
      readPort ((splitHost false cs).2.drop 1) = some (port, rest) ∧
      authority = { user, password, port, host := if host.isEmpty then none else some host } := by
  unfold readHostAndPort at read
  simp only [Option.bind_eq_bind, Option.bind_eq_some_iff] at read
  rcases read with ⟨host, named, read⟩
  split at read
  · cases read
  · simp only [Option.bind_eq_some_iff] at read
    rcases read with ⟨⟨port, behind⟩, ported, made⟩
    cases made
    exact ⟨host, port, named, ported, rfl⟩

theorem readAuthority_eq_some {web last : Bool} {credentials place : List Char}
    {result : Authority × List Char} (single : '@' ∉ place)
    (read : readAuthority web last (credentials ++ '@' :: place) = some result) :
    readHostAndPort web (splitCredentials credentials).1 (splitCredentials credentials).2 place =
      some result := by
  rw [readAuthority, Text.splitAtLast?_of_last single] at read
  simp only at read
  split at read
  · cases read
  · exact read

/-! ## Addresses -/

/-- The credentials of the one address are those of the other one or not; the rest is the same. -/
def SameButCredentials (url other : Url) : Prop :=
  other = { url with user := other.user, password := other.password }

section

variable {scheme credentials others rest : List Char} {url other : Url}

/-- An address whose authority has credentials is read in two parts. -/
theorem readAfterSlashes_eq_some
    (clear : forall c, c ∈ credentials -> ends scheme c = false)
    (last : '@' ∉ rest.takeWhile (fun c => !ends scheme c))
    (read : readAfterSlashes scheme (credentials ++ '@' :: rest) = some url) :
    exists authority behind,
      readHostAndPort (isWeb scheme) (splitCredentials credentials).1
        (splitCredentials credentials).2 (rest.takeWhile (fun c => !ends scheme c)) =
          some (authority, behind) ∧
      url = (let (path, query) := splitQuery (behind ++ rest.dropWhile (fun c => !ends scheme c))
        { scheme, query, user := authority.user, password := authority.password
          host := authority.host, path := readPath (isWeb scheme) path
          port := if authority.port = impliedPort scheme then none else authority.port }) := by
  have stays : ends scheme '@' = false := by simp [ends, endsAuthority]
  rw [readAfterSlashes, Text.takeWhile_of_clear clear stays,
    Text.dropWhile_of_clear clear stays] at read
  simp only [Option.bind_eq_bind, Option.bind_eq_some_iff] at read
  rcases read with ⟨⟨authority, behind⟩, found, made⟩
  cases made
  exact ⟨authority, behind, readAuthority_eq_some last found, rfl⟩

theorem sameButCredentials_of_readAfterSlashes
    (clear : forall c, c ∈ credentials -> ends scheme c = false)
    (otherClear : forall c, c ∈ others -> ends scheme c = false)
    (last : '@' ∉ rest.takeWhile (fun c => !ends scheme c))
    (read : readAfterSlashes scheme (credentials ++ '@' :: rest) = some url)
    (otherRead : readAfterSlashes scheme (others ++ '@' :: rest) = some other) :
    url.SameButCredentials other := by
  rcases readAfterSlashes_eq_some clear last read with ⟨authority, behind, found, rfl⟩
  rcases readAfterSlashes_eq_some otherClear last otherRead
    with ⟨otherAuthority, otherBehind, otherFound, rfl⟩
  rcases readHostAndPort_eq_some found with ⟨host, port, named, ported, rfl⟩
  rcases readHostAndPort_eq_some otherFound with ⟨otherHost, otherPort, otherNamed, otherPorted, rfl⟩
  cases named.symm.trans otherNamed
  cases ported.symm.trans otherPorted
  rfl

end

/-! ## Addresses of the server -/

def serverScheme : List Char := "mysql".toList

/-- Is a character one of those that do not count at the ends of an address? -/
abbrev pads (c : Char) : Bool := c.toNat ≤ 0x20

/-- Does a character count in an address? -/
abbrev counts (c : Char) : Bool := !isPassedOver c

/-- What stands before the authority in an address of the server. -/
def serverLead : List Char := serverScheme ++ "://".toList

theorem ends_server : ends serverScheme = endsAuthority false := rfl

theorem readScheme_server (rest : List Char) :
    readScheme (serverLead ++ rest) = some (serverScheme, '/' :: '/' :: rest) := rfl

/-- What an address of the server says behind its slashes. -/
theorem read_server {text : String} {credentials rest : List Char}
    (written : text.toList = serverLead ++ (credentials ++ '@' :: rest)) :
    read text = readAfterSlashes serverScheme
      (credentials.filter counts ++ '@' :: (Text.dropEndWhile pads rest).filter counts) := by
  have bare : Text.strip pads text.toList =
      serverLead ++ (credentials ++ '@' :: Text.dropEndWhile pads rest) := by
    have front : text.toList.dropWhile pads = text.toList := by rw [written]; rfl
    rw [Text.strip, front, written, ← List.append_assoc,
      Text.dropEndWhile_append_of_stays pads (by decide), List.append_assoc]
  have counted : (Text.strip pads text.toList).filter counts =
      serverLead ++
        (credentials.filter counts ++ '@' :: (Text.dropEndWhile pads rest).filter counts) := by
    rw [bare, List.filter_append, List.filter_append credentials]
    rfl
  rw [read]
  simp only [counted, readScheme_server]
  rfl

section

variable {credentials others rest : List Char}

/-- What is passed over ends no authority, so it hides no `@` and brings none to light. -/
theorem last_of_counted (last : '@' ∉ rest.takeWhile (fun c => !endsAuthority false c)) :
    '@' ∉ ((Text.dropEndWhile pads rest).filter counts).takeWhile
      (fun c => !ends serverScheme c) := by
  have passing : forall c, (!counts c || !endsAuthority false c) = !endsAuthority false c := by
    intro c
    cases passed : isPassedOver c with
    | false => simp [counts, passed]
    | true =>
        have plain : c = '\t' ∨ c = '\n' ∨ c = '\r' := by simpa [isPassedOver, or_assoc] using passed
        rcases plain with rfl | rfl | rfl <;> rfl
  rw [ends_server, List.takeWhile_filter]
  simp only [passing]
  intro member
  exact last (Text.mem_takeWhile_of_prefix (Text.dropEndWhile_prefix pads rest)
    (List.mem_filter.mp member).1)

/-- Two addresses of the server with one text behind their credentials differ in these alone. -/
theorem sameButCredentials_of_read {text otherText : String} {url other : Url}
    (written : text.toList = serverLead ++ (credentials ++ '@' :: rest))
    (otherWritten : otherText.toList = serverLead ++ (others ++ '@' :: rest))
    (clear : forall c, c ∈ credentials -> endsAuthority false c = false)
    (otherClear : forall c, c ∈ others -> endsAuthority false c = false)
    (last : '@' ∉ rest.takeWhile (fun c => !endsAuthority false c))
    (reads : read text = some url) (otherReads : read otherText = some other) :
    url.SameButCredentials other := by
  rw [read_server written] at reads
  rw [read_server otherWritten] at otherReads
  apply sameButCredentials_of_readAfterSlashes ?_ ?_ (last_of_counted last) reads otherReads
  · intro c member
    exact clear c (List.mem_filter.mp member).1
  · intro c member
    exact otherClear c (List.mem_filter.mp member).1

end

end Url
end ScopedSql
