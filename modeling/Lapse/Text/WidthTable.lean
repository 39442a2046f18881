import Lapse.Text.Intervals

/-!
# Display width of characters: the tables

Characters that take no column of their own (combining and ignorable ones, vowels and finals of
composed Hangul syllables) and characters that take two.
-/
namespace Lapse.Text.Width

def zero : Intervals := .ofLines
  ["ad 1 252 70 113 7 107 2d 1 1 1 2 1 2 1 1 3d 1 a b 1 1 2e 15 10 1 65 7 2 6 2 2 1 4 21 1 1 1 1e",
   "1b 5b b 3a 9 9 1 18 4 1 9 1 3 1 5 2b 3 34 2 6 8 2a 39 37 1 1 1 4 8 4 1 3 7 a 2 1d 1 3a 1 1 1 2",
   "4 8 1 9 1 a 2 1a 1 2 2 39 1 4 2 4 2 2 3 3 1 1e 2 3 1 b 2 39 1 4 5 1 2 4 1 14 2 16 6 1 1 3a 1 1",
   "2 1 4 8 1 7 3 a 2 1e 1 3b 1 1 1 c 1 9 1 28 1 3 1 37 1 1 3 5 3 1 4 7 2 b 2 1d 1 3a 1 2 2 1 1 3",
   "3 1 4 7 2 b 2 1c 2 39 2 1 1 2 4 8 1 9 1 a 2 1d 1 48 1 4 1 2 3 1 1 8 1 51 1 2 7 c 8 62 1 2 9 b",
   "7 49 2 1b 1 1 1 1 1 37 e 1 5 1 2 5 b 1 24 9 1 66 4 1 6 1 2 2 2 19 2 4 3 10 4 d 1 2 2 6 1 f 1",
   "c2 a0 15d 3 3b2 3 1d 2 1e 2 1e 2 40 2 1 7 8 1 2 b 9 1 2d 5 75 2 22 1 76 3 4 2 9 1 6 3 db 2 2 1",
   "3a 1 1 7 1 1 1 1 2 8 6 a 2 1 30 1f 31 4 30 a 4 2 27 9 c 2 20 4 2 2 1 3 38 1 1 2 3 1 1 3 3a 8 2",
   "2 98 3 1 d 1 7 4 1 6 1 3 2 c6 40 20b 5 1a 5 31 10 60 21 bfe 3 8d 1 60 20 22a 6 69 2 c9 1 750a",
   "4 1 a 20 2 50 2 110 1 3 1 4 1 19 2 5 1 97 2 1a 12 8 1 4 1 26 8 19 b 2e 3 30 1 2 4 2 2 27 1 43",
   "6 2 2 2 2 c 1 8 1 2f 1 33 1 1 3 2 2 5 2 1 1 2a 2 8 1 ee 1 2 1 4 1 2bc2 17 4 31 2322 1 2e1 10",
   "10 10 cf 1 9e 3 4f 9 204 1 e2 1 95 5 686 3 1 2 5 4 28 3 4 1 a5 2 23d 4 183 2 50 3 46 b 31 4 7b",
   "1 36 f 29 1 2 2 a 3 31 4 2 2 7 1 3d 3 24 5 1 8 3e 1 c 2 34 9 a 4 2 1 5f 3 2 1 1 2 6 1 2 1 9d 1",
   "3 8 15 2 39 2 1 1 1 1 16 1 e 7 3 5 c3 8 2 3 1 1 17 1 51 1 2 6 1 1 2 1 1 2 1 2 eb 1 2 4 6 2 1 2",
   "1b 2 55 8 2 1 1 2 6a 1 1 1 2 6 1 1 65 3 2 4 1 5 103 9 1 2 f5 1 a 2 1 1 4 1 90 4 2 2 4 1 20 a",
   "28 6 2 4 8 1 9 6 2 3 2e d 1 2 196 7 1 6 1 1 52 16 2 7 1 2 1 2 7a 6 3 1 1 2 1 7 1 1 48 2 3 1 1",
   "1 15b 2 b 2 34 5 5 1 1 1 14fd 1 6 f 369a 5 3b 7 418 1 3f 4 51 1 4cb8 2 1 4 125c 2e 2 17 21e 1",
   "1 3 4 15 2 7 1e 4 94 3 7bb 37 4 32 8 1 e 1 16 5 1 f 550 7 1 11 2 7 1 2 1 5 64 1 a0 7 177 1 3d",
   "4 1fc 4 3e0 7 6d 7 c16b5 1000"]

def double : Intervals := .ofLines
  ["1100 60 11ba 2 d 2 be 4 3 1 2 1 209 2 15 2 32 c 2b 1 13 1 d 1 8 2 11 2 5 2 8 1 5 1 15 1 7 2 1",
   "1 4 1 2 1 7 1 4 2 1c 1 23 1 1 1 4 3 1 1 3d 3 18 1 e 1 35b 2 33 1 4 1 32a 1a 1 59 c d6 1a 3a 6",
   "f 2 56 4 65 5 2b 1 33 1 2a 1 54 b 30 1 28 8 1b70 40 568d 3 37 499 1d 283 2ba4 215c 200 310 a",
   "16 23 1 13 1 4 95 60 7f 7 6ff9 4 c 2 e 17f8 8 4d6 2a 9 22e7 4 1 7 1 2 1 123 f 1 1d 3 2 1 e 4 8",
   "18c 3d08 1 ca 1 be 1 2 a 65 3 d 2c 4 9 7 2 e 6 9a 21 c 9 1 46 1 16 c 2b 4 5 c 11 3 1 3 47 1 1",
   "1 bb 2 3f d 4 1 18 12 1 1a 2 d 1 56 55 30 46 6 1 3 3 2 3 4 4 b 2 7 9 e3 c 4 1 11b 2f 1 a 1 b9",
   "70 d 3 9 7 2e 1 7 8 e 4 9 7 9 507 fffe 2 fffe"]

end Lapse.Text.Width
