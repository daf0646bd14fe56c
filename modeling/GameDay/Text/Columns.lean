namespace GameDay.Text

def column (width : Nat) (s : String) : String :=
  s ++ String.ofList (List.replicate (width - s.length) ' ')

def rule (width : Nat) (c : Char) : String := String.ofList (List.replicate width c)

def lines (ls : List String) : String := String.join (ls.map (· ++ "\n"))

end GameDay.Text
