/-!
# Slashes around paths

Paths and templates are compared after spaces and slashes at their ends have
been removed, and carry exactly one slash where one is required.
-/

namespace HttpRouting.Path

def isFiller (c : Char) : Bool := c == ' ' || c == '/'

def trimLeft (s : List Char) : List Char := s.dropWhile isFiller

def trimRight (s : List Char) : List Char := (s.reverse.dropWhile isFiller).reverse

def trim (s : List Char) : List Char := trimRight (trimLeft s)

/-! ## On strings -/

def trimSlashes (path : String) : String := .ofList (trim path.toList)

def addLeadingSlash (path : String) : String := .ofList ('/' :: trimLeft path.toList)

def addTrailingSlash (path : String) : String := .ofList (trimRight path.toList ++ ['/'])

def removeTrailingSlash (path : String) : String := .ofList (trimRight path.toList)

/-- A base path has one slash before it and one after it, which may be the same. -/
def normalizeBase (path : String) : String := addLeadingSlash (addTrailingSlash path)

end HttpRouting.Path
