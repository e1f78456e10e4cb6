import ControlFlow.Text.HexTable

set_option autoImplicit false

namespace ControlFlow.Text

-- Entries `point:class` and `first+count:class`.
def combiningLines : List String :=
  [
    "300+15:e6 315:e8 316+4:dc 31a:e8 31b:d8 31c+5:dc 321+2:ca 323+4:dc 327+2:ca 329+b:dc 334+5:1",
    "339+4:dc 33d+8:e6 345:f0 346:e6 347+3:dc 34a+3:e6 34d+2:dc 350+3:e6 353+4:dc 357:e6 358:e8",
    "359+2:dc 35b:e6 35c:e9 35d+2:ea 35f:e9 360+2:ea 362:e9 363+d:e6 483+5:e6 591:dc 592+4:e6",
    "596:dc 597+3:e6 59a:de 59b:dc 59c+6:e6 5a2+6:dc 5a8+2:e6 5aa:dc 5ab+2:e6 5ad:de 5ae:e4 5af:e6",
    "5b0:a 5b1:b 5b2:c 5b3:d 5b4:e 5b5:f 5b6:10 5b7:11 5b8:12 5b9+2:13 5bb:14 5bc:15 5bd:16 5bf:17",
    "5c1:18 5c2:19 5c4:e6 5c5:dc 5c7:12 610+8:e6 618:1e 619:1f 61a:20 64b:1b 64c:1c 64d:1d 64e:1e",
    "64f:1f 650:20 651:21 652:22 653+2:e6 655+2:dc 657+5:e6 65c:dc 65d+2:e6 65f:dc 670:23 6d6+7:e6",
    "6df+4:e6 6e3:dc 6e4:e6 6e7+2:e6 6ea:dc 6eb+2:e6 6ed:dc 711:24 730:e6 731:dc 732+2:e6 734:dc",
    "735+2:e6 737+3:dc 73a:e6 73b+2:dc 73d:e6 73e:dc 73f+3:e6 742:dc 743:e6 744:dc 745:e6 746:dc",
    "747:e6 748:dc 749+2:e6 7eb+7:e6 7f2:dc 7f3:e6 7fd:dc 816+4:e6 81b+9:e6 825+3:e6 829+5:e6",
    "859+3:dc 898:e6 899+3:dc 89c+4:e6 8ca+5:e6 8cf+5:dc 8d4+e:e6 8e3:dc 8e4+2:e6 8e6:dc 8e7+2:e6",
    "8e9:dc 8ea+3:e6 8ed+3:dc 8f0:1b 8f1:1c 8f2:1d 8f3+3:e6 8f6:dc 8f7+2:e6 8f9+2:dc 8fb+5:e6 93c:7",
    "94d:9 951:e6 952:dc 953+2:e6 9bc:7 9cd:9 9fe:e6 a3c:7 a4d:9 abc:7 acd:9 b3c:7 b4d:9 bcd:9",
    "c3c:7 c4d:9 c55:54 c56:5b cbc:7 ccd:9 d3b+2:9 d4d:9 dca:9 e38+2:67 e3a:9 e48+4:6b eb8+2:76",
    "eba:9 ec8+4:7a f18+2:dc f35:dc f37:dc f39:d8 f71:81 f72:82 f74:84 f7a+4:82 f80:82 f82+2:e6",
    "f84:9 f86+2:e6 fc6:dc 1037:7 1039+2:9 108d:dc 135d+3:e6 1714+2:9 1734:9 17d2:9 17dd:e6 18a9:e4",
    "1939:de 193a:e6 193b:dc 1a17:e6 1a18:dc 1a60:9 1a75+8:e6 1a7f:dc 1ab0+5:e6 1ab5+6:dc 1abb+2:e6",
    "1abd:dc 1abf+2:dc 1ac1+2:e6 1ac3+2:dc 1ac5+5:e6 1aca:dc 1acb+4:e6 1b34:7 1b44:9 1b6b:e6",
    "1b6c:dc 1b6d+7:e6 1baa+2:9 1be6:7 1bf2+2:9 1c37:7 1cd0+3:e6 1cd4:1 1cd5+5:dc 1cda+2:e6",
    "1cdc+4:dc 1ce0:e6 1ce2+7:1 1ced:dc 1cf4:e6 1cf8+2:e6 1dc0+2:e6 1dc2:dc 1dc3+7:e6 1dca:dc",
    "1dcb+2:e6 1dcd:ea 1dce:d6 1dcf:dc 1dd0:ca 1dd1+25:e6 1df6:e8 1df7+2:e4 1df9:dc 1dfa:da 1dfb:e6",
    "1dfc:e9 1dfd:dc 1dfe:e6 1dff:dc 20d0+2:e6 20d2+2:1 20d4+4:e6 20d8+3:1 20db+2:e6 20e1:e6",
    "20e5+2:1 20e7:e6 20e8:dc 20e9:e6 20ea+2:1 20ec+4:dc 20f0:e6 2cef+3:e6 2d7f:9 2de0+20:e6",
    "302a:da 302b:e4 302c:e8 302d:de 302e+2:e0 3099+2:8 a66f:e6 a674+a:e6 a69e+2:e6 a6f0+2:e6",
    "a806:9 a82c:9 a8c4:9 a8e0+12:e6 a92b+3:dc a953:9 a9b3:7 a9c0:9 aab0:e6 aab2+2:e6 aab4:dc",
    "aab7+2:e6 aabe+2:e6 aac1:e6 aaf6:9 abed:9 fb1e:1a fe20+7:e6 fe27+7:dc fe2e+2:e6 101fd:dc",
    "102e0:dc 10376+5:e6 10a0d:dc 10a0f:e6 10a38:e6 10a39:1 10a3a:dc 10a3f:9 10ae5:e6 10ae6:dc",
    "10d24+4:e6 10eab+2:e6 10f46+2:dc 10f48+3:e6 10f4b:dc 10f4c:e6 10f4d+4:dc 10f82:e6 10f83:dc",
    "10f84:e6 10f85:dc 11046:9 11070:9 1107f:9 110b9:9 110ba:7 11100+3:e6 11133+2:9 11173:7 111c0:9",
    "111ca:7 11235:9 11236:7 112e9:7 112ea:9 1133b+2:7 1134d:9 11366+7:e6 11370+5:e6 11442:9",
    "11446:7 1145e:e6 114c2:9 114c3:7 115bf:9 115c0:7 1163f:9 116b6:9 116b7:7 1172b:9 11839:9",
    "1183a:7 1193d+2:9 11943:7 119e0:9 11a34:9 11a47:9 11a99:9 11c3f:9 11d42:7 11d44+2:9 11d97:9",
    "16af0+5:1 16b30+7:e6 16ff0+2:6 1bc9e:1 1d165+2:d8 1d167+3:1 1d16d:e2 1d16e+5:d8 1d17b+8:dc",
    "1d185+5:e6 1d18a+2:dc 1d1aa+4:e6 1d242+3:e6 1e000+7:e6 1e008+11:e6 1e01b+7:e6 1e023+2:e6",
    "1e026+5:e6 1e130+7:e6 1e2ae:e6 1e2ec+4:e6 1e8d0+7:dc 1e944+6:e6 1e94a:7"]

def combinings : List HexEntry :=
  readHexLines combiningLines

def combiningClass (point : Nat) : Nat :=
  match combinings.find? (fun entry => entry.covers point) with
  | some entry => entry.values.headD 0
  | none => 0

end ControlFlow.Text
