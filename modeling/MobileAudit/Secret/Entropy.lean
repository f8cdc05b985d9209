namespace MobileAudit.Secret

/-! Shannon entropy of a text in bits per character. -/

/-- Counts one more occurrence; characters keep the order of their first occurrence. -/
def countChar (c : Char) : List (Char × Nat) → List (Char × Nat)
  | [] => [(c, 1)]
  | (x, n) :: rest => if x == c then (x, n + 1) :: rest else (x, n) :: countChar c rest

def frequencies (text : List Char) : List (Char × Nat) :=
  text.foldl (fun counts c => countChar c counts) []

def entropy (text : List Char) : Float :=
  let length := Float.ofNat text.length
  (frequencies text).foldl (fun sum entry =>
    let share := Float.ofNat entry.2 / length
    sum - share * share.log2) 0.0

end MobileAudit.Secret
