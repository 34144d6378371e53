import FormLetter.Word

namespace FormLetter

def clampLimit (limit : Option Int64) (default most : Int64) : Int64 :=
  min (max (limit.getD default) 1) most

def clampPage (page : Option Int64) : Int64 :=
  max (page.getD 1) 1

/-- Which page is asked for, counted from one, and how many rows it holds. -/
structure PageRequest where
  page : Int64
  limit : Int64
  deriving DecidableEq

namespace PageRequest

def defaultLimit : Int64 :=
  10

def greatestLimit : Int64 :=
  100

def of (page limit : Option Int64) : PageRequest where
  page := clampPage page
  limit := clampLimit limit defaultLimit greatestLimit

end PageRequest

/-- The product, or the bound of 64 bits on the side on which it is too large. -/
def saturatingMul (a b : Int64) : Int64 :=
  let product := a.toInt * b.toInt
  if product < Int64.minValue.toInt then Int64.minValue
  else if Int64.maxValue.toInt < product then Int64.maxValue
  else Int64.ofInt product

/-- How many rows come before the page. There is no answer for the least page number of all, since
the page before it has none. -/
def PageRequest.offset? (request : PageRequest) : Option Int64 := do
  let before ← Word.sub? request.page 1
  pure (saturatingMul before request.limit)

/-- The number of pages that hold all rows, unless there is no room to round it up. -/
def lastPage? (total limit : Int64) : Option Int64 :=
  if total ≤ 0 then some 0
  else do
    let limit := max limit 1
    let sum ← Word.add? total limit
    let sum ← Word.sub? sum 1
    pure (sum / limit)

/-- The rows of one page, and where the page stands among all. -/
structure Page (α : Type) where
  data : List α
  total : Int64
  page : Int64
  limit : Int64
  lastPage : Int64

/-- The page that is asked for, if the number of pages can be told. -/
def Page.of? {α : Type} (data : List α) (total : Int64) (request : PageRequest) :
    Option (Page α) := do
  let lastPage ← lastPage? total request.limit
  pure
    { data := data
      total := total
      page := request.page
      limit := request.limit
      lastPage := lastPage }

end FormLetter
