import SyntaxGraft.Unicode.CharSet
/-!
# Script extensions

Characters that are used with several scripts: for each script, under its short name, those of other
scripts that it uses.
-/

namespace SyntaxGraft.Unicode

/-- The characters of other scripts that a script uses. -/
def scriptExtensions : List (String × CharSet) := [
  ("adlm", .ofLines
    ["61f 640 204f 2e41"]),
  ("aghb", .ofLines
    ["304 331 35e"]),
  ("arab", .ofLines
    ["60c 61b 61f 640 64b-655 670 204f 2e41 fd3e-fd3f 102e0-102fb"]),
  ("armn", .ofLines
    ["308"]),
  ("avst", .ofLines
    ["b7 2e30-2e31"]),
  ("beng", .ofLines
    ["2bc 951-952 964-965 1cd0 1cd2 1cd5-1cd6 1cd8 1ce1 1cea 1ced 1cf2 1cf5-1cf7 a8f1"]),
  ("bopo", .ofLines
    ["2c7 2c9-2cb 2d9 3001-3003 3008-3011 3013-301f 302a-302d 3030 3037 30fb fe45-fe46",
     "ff61-ff65"]),
  ("bugi", .ofLines
    ["a9cf"]),
  ("buhd", .ofLines
    ["1735-1736"]),
  ("cakm", .ofLines
    ["9e6-9ef 1040-1049"]),
  ("cari", .ofLines
    ["b7 205a 205d 2e31"]),
  ("cher", .ofLines
    ["300-302 304 30b-30c 323-324 330-331"]),
  ("copt", .ofLines
    ["b7 300 304-305 307 374-375 2e17 102e0-102fb"]),
  ("cpmn", .ofLines
    ["10100-10101"]),
  ("cprt", .ofLines
    ["10100-10102 10107-10133 10137-1013f"]),
  ("cyrl", .ofLines
    ["2bc 300-302 304 306 308 30b 311 485-486 1df8 2e43"]),
  ("deva", .ofLines
    ["2bc 951-952 964-965 1cd0-1cf6 1cf8-1cf9 20f0 a830-a839"]),
  ("dogr", .ofLines
    ["964-96f a830-a839"]),
  ("dupl", .ofLines
    ["b7 307-308 30a 323-324 2e3c 1bca0-1bca3"]),
  ("elba", .ofLines
    ["b7 305"]),
  ("ethi", .ofLines
    ["30e"]),
  ("gara", .ofLines
    ["60c 61b 61f"]),
  ("geor", .ofLines
    ["b7 589 10fb 205a 2e31"]),
  ("glag", .ofLines
    ["b7 303 305 484 487 589 10fb 205a 2e43 a66f"]),
  ("gong", .ofLines
    ["b7 964-965"]),
  ("gonm", .ofLines
    ["964-965"]),
  ("goth", .ofLines
    ["b7 304-305 308 331"]),
  ("gran", .ofLines
    ["951-952 964-965 be6-bf3 1cd0 1cd2-1cd3 1cf2-1cf4 1cf8-1cf9 20f0 1133b 11fd0-11fd1 11fd3"]),
  ("grek", .ofLines
    ["b7 300-301 304 306 308 313 342 345 374 1dc0-1dc1 205d"]),
  ("gujr", .ofLines
    ["951-952 964-965 a830-a839"]),
  ("gukh", .ofLines
    ["965"]),
  ("guru", .ofLines
    ["951-952 964-965 a830-a839"]),
  ("hang", .ofLines
    ["3001-3003 3008-3011 3013-301f 3030 3037 30fb fe45-fe46 ff61-ff65"]),
  ("hani", .ofLines
    ["b7 2ff0-2fff 3001-3003 3006 3008-3011 3013-301f 302a-302d 3030 3037 303c-303f 30fb",
     "3190-319f 31c0-31e5 31ef 3220-3247 3280-32b0 32c0-32cb 32ff 3358-3370 337b-337f",
     "33e0-33fe a700-a707 fe45-fe46 ff61-ff65 1d360-1d371 1f250-1f251"]),
  ("hano", .ofLines
    ["1735-1736"]),
  ("hebr", .ofLines
    ["307-308"]),
  ("hira", .ofLines
    ["3001-3003 3008-3011 3013-301f 3030-3035 3037 303c-303d 3099-309c 30a0 30fb-30fc",
     "fe45-fe46 ff61-ff65 ff70 ff9e-ff9f"]),
  ("hung", .ofLines
    ["205a 205d 2e31 2e41"]),
  ("java", .ofLines
    ["a9cf"]),
  ("kali", .ofLines
    ["a92e"]),
  ("kana", .ofLines
    ["305 323 3001-3003 3008-3011 3013-301f 3030-3035 3037 303c-303d 3099-309c 30a0 30fb-30fc",
     "fe45-fe46 ff61-ff65 ff70 ff9e-ff9f"]),
  ("khoj", .ofLines
    ["ae6-aef a830-a839"]),
  ("knda", .ofLines
    ["951-952 964-965 1cd0 1cd2-1cd3 1cda 1cf2 1cf4 a830-a835"]),
  ("kthi", .ofLines
    ["966-96f 2e31 a830-a839"]),
  ("latn", .ofLines
    ["b7 2bc 2c7 2c9-2cb 2cd 2d7 2d9 300-30e 310-311 313 320 323-325 32d-32e 330-331 358 35e",
     "363-36f 485-486 951-952 10fb 1df8 202f 20f0 2e17 a700-a707 a92e"]),
  ("limb", .ofLines
    ["965"]),
  ("lina", .ofLines
    ["10107-10133"]),
  ("linb", .ofLines
    ["10100-10102 10107-10133 10137-1013f"]),
  ("lisu", .ofLines
    ["2bc 2cd 300a-300b"]),
  ("lyci", .ofLines
    ["205a"]),
  ("lydi", .ofLines
    ["b7 2e31"]),
  ("mahj", .ofLines
    ["b7 964-96f a830-a839"]),
  ("mand", .ofLines
    ["640"]),
  ("mani", .ofLines
    ["640"]),
  ("mero", .ofLines
    ["205d"]),
  ("mlym", .ofLines
    ["951-952 964-965 1cda 1cf2 a830-a832"]),
  ("modi", .ofLines
    ["a830-a839"]),
  ("mong", .ofLines
    ["1802-1803 1805 202f 3001-3002 3008-300b"]),
  ("mult", .ofLines
    ["a66-a6f"]),
  ("mymr", .ofLines
    ["a92e"]),
  ("nand", .ofLines
    ["964-965 ce6-cef 1ce9 1cf2 1cfa a830-a835"]),
  ("nkoo", .ofLines
    ["60c 61b 61f fd3e-fd3f"]),
  ("onao", .ofLines
    ["964-965"]),
  ("orkh", .ofLines
    ["205a 2e30"]),
  ("orya", .ofLines
    ["951-952 964-965 1cda 1cf2"]),
  ("osge", .ofLines
    ["301 304 30b 358"]),
  ("ougr", .ofLines
    ["640 10af2"]),
  ("perm", .ofLines
    ["b7 300 306-308 313 483"]),
  ("phag", .ofLines
    ["1802-1803 1805 202f 3002"]),
  ("phlp", .ofLines
    ["640"]),
  ("rohg", .ofLines
    ["60c 61b 61f 640 6d4"]),
  ("runr", .ofLines
    ["16eb-16ed"]),
  ("samr", .ofLines
    ["2e31"]),
  ("shaw", .ofLines
    ["b7"]),
  ("shrd", .ofLines
    ["951 1cd7 1cd9 1cdc-1cdd 1ce0 a830-a835 a838"]),
  ("sind", .ofLines
    ["964-965 a830-a839"]),
  ("sinh", .ofLines
    ["964-965 1cf2"]),
  ("sogd", .ofLines
    ["640"]),
  ("sunu", .ofLines
    ["300-301 303 30d 310 32d 331"]),
  ("sylo", .ofLines
    ["964-965 9e6-9ef"]),
  ("syrc", .ofLines
    ["303-304 307-308 30a 320 323-325 32d-32e 330 60c 61b-61c 61f 640 64b-655 670 1df8 1dfa"]),
  ("tagb", .ofLines
    ["1735-1736"]),
  ("takr", .ofLines
    ["964-965 a830-a839"]),
  ("tale", .ofLines
    ["300-301 307-308 30c 1040-1049"]),
  ("taml", .ofLines
    ["951-952 964-965 1cda a8f3 11301 11303 1133b-1133c"]),
  ("tang", .ofLines
    ["2ff0-2fff 31ef"]),
  ("telu", .ofLines
    ["951-952 964-965 1cda 1cf2"]),
  ("tfng", .ofLines
    ["302 304 307 309"]),
  ("tglg", .ofLines
    ["1735-1736"]),
  ("thaa", .ofLines
    ["60c 61b-61c 61f 660-669 fdf2 fdfd"]),
  ("thai", .ofLines
    ["2bc 2d7 303 331"]),
  ("tibt", .ofLines
    ["3008-300b"]),
  ("tirh", .ofLines
    ["951-952 964-965 1cf2 a830-a839"]),
  ("todr", .ofLines
    ["301 304 307 311 313 35e"]),
  ("toto", .ofLines
    ["2bc"]),
  ("tutg", .ofLines
    ["ce6-cef 1cf2 1cf4 a830-a835 a8f1"]),
  ("yezi", .ofLines
    ["60c 61b 61f 660-669"]),
  ("yiii", .ofLines
    ["3001-3002 3008-3011 3014-301b 30fb ff61-ff65"])]

end SyntaxGraft.Unicode
