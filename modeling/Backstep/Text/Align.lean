/-!
# Alignment

Text filled up with spaces to a least number of characters.
-/
namespace Backstep

def alignRight (n : Nat) (text : String) : String :=
  String.ofList (List.replicate (n - text.length) ' ') ++ text

def alignLeft (n : Nat) (text : String) : String :=
  text ++ String.ofList (List.replicate (n - text.length) ' ')

end Backstep
