import WebStyle.Demo
/-!
The program: it shows the demonstration.
-/
set_option autoImplicit false

def main : IO Unit := WebStyle.Demo.lines.forM IO.println
