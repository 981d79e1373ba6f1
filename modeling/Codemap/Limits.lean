import Codemap.Text.Basic

namespace Codemap

/-!
# The limits of the program

The program runs on a machine that refuses two things which texts from outside may ask for:
very long decimal numbers, and very many calls inside one another.  What a text asks for is
compared with these limits where it is read.
-/

/-- The largest number of decimal digits that an integer may be read from or written with. -/
def Text.digitLimit : Nat := 4300

/-- The number of nested calls for which there is room.  The stack of the program holds a
thousand calls, and it is assumed that forty of them are in progress, wherever a text is read. -/
def stackRoom : Nat := 960

end Codemap
