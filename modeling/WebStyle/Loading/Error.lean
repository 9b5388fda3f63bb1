import WebStyle.Text.Quoted
/-!
Why a style sheet could not be loaded.
-/
set_option autoImplicit false

namespace WebStyle

/-- Why a resource could not be fetched. -/
inductive FetchError where
  | notFound (url : String)
  | network (url reason : String)
  deriving DecidableEq, Repr

def FetchError.message : FetchError → String
  | .notFound url => url ++ " not found"
  | .network url reason => "network error fetching " ++ url ++ ": " ++ reason

inductive LoadError where
  | fetch (e : FetchError)
  | unresolvable (href : String) (base : Option String)
  | cycle (url : String)
  | tooDeep (url : String) (limit : Nat)
  | unsupportedType (url type : String)
  | cancelled (url : String)
  deriving DecidableEq, Repr

def LoadError.message : LoadError → String
  | .fetch e => e.message
  | .unresolvable href base =>
    "cannot resolve " ++ Text.quoted href ++ " against " ++ Text.quotedOption base
  | .cycle url => url ++ " is already being imported"
  | .tooDeep url limit => "import of " ++ url ++ " exceeds the depth limit of " ++ toString limit
  | .unsupportedType url type => url ++ " was served as " ++ type ++ ", not text/css"
  | .cancelled url => "load of " ++ url ++ " was cancelled"

end WebStyle
