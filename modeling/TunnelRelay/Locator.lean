import TunnelRelay.Text.Quoted

/-! Instance locators: the project, zone and name of a virtual machine, and
their path form `projects/P/zones/Z/instances/N`. Reading ignores slashes at
either end of the path and refuses an empty part; locators are ordered by
project, then zone, then name. -/
namespace TunnelRelay

structure Locator where
  project : String
  zone : String
  name : String
  deriving DecidableEq, Repr

namespace Locator

def render (l : Locator) : String :=
  "projects/" ++ l.project ++ "/zones/" ++ l.zone ++ "/instances/" ++ l.name

def trimSlashes (cs : List Char) : List Char :=
  ((cs.dropWhile (· == '/')).reverse.dropWhile (· == '/')).reverse

def ofParts : List String → Option Locator
  | ["projects", project, "zones", zone, "instances", name] =>
      if project.isEmpty || zone.isEmpty || name.isEmpty then none else some ⟨project, zone, name⟩
  | _ => none

def parse? (text : String) : Option Locator :=
  ofParts (((trimSlashes text.toList).splitOn '/').map String.ofList)

def compare (a b : Locator) : Ordering :=
  (Ord.compare a.project b.project).then ((Ord.compare a.zone b.zone).then (Ord.compare a.name b.name))

def sort (locators : List Locator) : List Locator :=
  ((locators.mergeSort fun a b => (a.compare b).isLE).foldr (fun l rest =>
    if rest.head? = some l then rest else l :: rest)) []

def describe (l : Locator) : String :=
  "InstanceLocator \x7b project: " ++ Text.quoted l.project ++ ", zone: " ++
    Text.quoted l.zone ++ ", name: " ++ Text.quoted l.name ++ " \x7d"

end Locator
end TunnelRelay
