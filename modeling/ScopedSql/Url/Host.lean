import ScopedSql.Domain.Basic
import ScopedSql.Url.Ipv4
import ScopedSql.Url.Ipv6
import ScopedSql.Url.Percent

namespace ScopedSql
namespace Url

/-!
# Hosts

A host in brackets is an internet address.  Where the host is known to be one of
the internet, any other host is a domain, or an internet address in numbers, and
it may be written with percent signs.  Elsewhere its characters stand for
themselves.
-/

def forbiddenInHost : List Char :=
  ['\x00', '\t', '\n', '\r', ' ', '#', '/', ':', '<', '>', '?', '@', '[', '\\', ']', '^', '|']

/-- Read a domain, or an internet address in numbers. -/
def readDomain (cs : List Char) : Option (List Char) := do
  let domain <- Domain.toAscii? (<- Percent.decode? cs)
  if domain.isEmpty then none
  else if Ipv4.isMeant domain then (Ipv4.read domain).map Ipv4.write
  else some domain

/-- Read a host as it will be shown. -/
def readHost (internet : Bool) (cs : List Char) : Option (List Char) :=
  match cs with
  | '[' :: rest =>
    if rest.getLast? = some ']' then
      (Ipv6.read rest.dropLast).map (fun groups => '[' :: Ipv6.write groups ++ [']'])
    else none
  | _ =>
    if internet then readDomain cs
    else if cs.any forbiddenInHost.contains then none
    else some (Percent.encode cs)

end Url
end ScopedSql
