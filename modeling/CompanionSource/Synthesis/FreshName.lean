/-! # Fresh names

    A local name that none of the taken names captures: the base, with as many underscores as it
    takes. -/

namespace CompanionSource.Synthesis

/-- The base with `k` underscores at its end. -/
def underscored (base : String) (k : Nat) : String :=
  base ++ String.ofList (List.replicate k '_')

/-- The base with the fewest underscores that is not taken.  More underscores than there are taken
    names are never needed. -/
def freshName (base : String) (taken : List String) : String :=
  let fewest := (List.range (taken.length + 1)).find? fun k => !taken.contains (underscored base k)
  underscored base (fewest.getD 0)

end CompanionSource.Synthesis
