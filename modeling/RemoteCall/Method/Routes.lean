import RemoteCall.Method.Record

/-!
Request factories for methods whose URL is the base URL with a path behind it.
-/

namespace RemoteCall

variable {σ : Type}

/-- Always the same path. -/
def fixedRoute (verb : Verb) (path : String) : RequestFactory σ := fun baseUrl _ =>
  pure (.ok { verb, url := baseUrl ++ path })

/-- The path, and behind it the natural text of the first argument. -/
def argumentRoute (verb : Verb) (path : String) : RequestFactory σ := fun baseUrl args =>
  pure <|
    match args with
    | [] => .error (.plain ("missing argument 0 for " ++ path))
    | a :: _ => .ok { verb, url := baseUrl ++ path ++ "/" ++ a.naturalText }

/-- The path, and behind it the integer argument with the given index, if one is asked for; with
headers and a body. -/
def builtRoute (verb : Verb) (path : String) (intArgument : Option Nat) (headers : Headers)
    (body : Option RequestBody) : RequestFactory σ := fun baseUrl args =>
  pure <|
    match intArgument with
    | none => .ok { verb, url := baseUrl ++ path, headers, body }
    | some index =>
      match args[index]?.bind Argument.int64? with
      | some value => .ok { verb, url := baseUrl ++ path ++ "/" ++ toString value, headers, body }
      | none =>
        .error (.plain ("argument " ++ toString index ++ " of " ++ toString args.length ++
          " is not an i64"))

end RemoteCall
