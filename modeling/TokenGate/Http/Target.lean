/-!
Targets of requests: a path with what may follow it, or a whole address.
-/
namespace TokenGate.Http

/-- Characters that end a path. -/
def endsPath (c : Char) : Bool := c = '?' || c = '#'

/-- What follows `://`, if there is any. -/
def afterScheme? : List Char → Option (List Char)
  | ':' :: '/' :: '/' :: rest => some rest
  | _ :: rest => afterScheme? rest
  | [] => none

/-- The path of a target. An address without a path has the path `/`, a mere host has none. -/
def targetPath (target : String) : String :=
  let cs := target.toList
  if cs.head? = some '/' ∨ cs = ['*'] then String.ofList (cs.takeWhile fun c => !endsPath c)
  else
    match afterScheme? cs with
    | none => ""
    | some rest =>
      let path := (rest.dropWhile fun c => c ≠ '/' && !endsPath c).takeWhile fun c => !endsPath c
      if path.isEmpty then "/" else String.ofList path

end TokenGate.Http
