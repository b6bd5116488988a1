import ContentSync.Text.CodeRanges

/-!
# Simple case folding

Two characters are the same up to case when simple case folding (Unicode 16.0) maps them to
the same character. The characters that fold together form an orbit of at most four members,
such as `k`, `K` and the Kelvin sign U+212A; a pattern that ignores case matches a character when
it matches a member of the character's orbit.

The orbits are kept as a table of pairs: each code point with the next member of its orbit in
increasing order, the largest with the smallest. Following the pairs from a character goes
round its orbit and back.

Main definitions: `caseOrbit`.
-/

namespace ContentSync.Text

/-- The orbit pairs as compact text (`CodeRanges.decode`): for each pair, the gap from the code
point before and the next member of its orbit. -/
def caseOrbitText : String :=
  "x3y41y51y61y71y81y91ya1yb1yc1yd1ye1yf1yg1yh1yi1yj1yk1yl1ym1yn1yo1yp1yq1yr1ys1yt7x31x41x51x61x71x81x91xa1xb1xc1DUr1xe1xf1xg1xh1xi1xj1xk1Hb1xm1xn1xo1xp1xq1xr1xswsYpbC71C81C91Ca1Cb1Cc1Cd1Ce1Cf1Cg1Ch1Ci1Cj1Ck1Cl1Cm1Cn1Co1Cp1Cq1Cr1Cs1Ct2D01D11D21D31D41D51D61Dzq1B61B71B81B91Ba1DUs1Bc1Bd1Be1Bf1Bg1Bh1Bi1Bj1Bk1Bl1Bm1Bn1Bo1Bp1Bq1Br1Bs2Bu1C01C11C21C31C41C51H41D91D81Db1Da1Dd1Dc1Df1De1Dh1Dg1Dj1Di1Dl1Dk1Dn1Dm1Dp1Do1Dr1Dq1Dt1Ds1E01Du1E21E11E41E31E61E51E81E71Ea1E91Ec1Eb1Ee1Ed1Eg1Ef1Ei1Eh1Ek1Ej1Em1El1Eo1En3Es1Er1Eu1Et1F11F02F41F31F61F51F81F71Fa1F91Fc1Fb1Fe1Fd1Fg1Ff1Fi1Fh2Fl1Fk1Fn1Fm1Fp1Fo1Fr1Fq1Ft1Fs1G01Fu1G21G11G41G31G61G51G81G71Ga1G91Gc1Gb1Ge1Gd1Gg1Gf1Gi1Gh1Gk1Gj1Gm1Gl1Go1Gn1Gq1Gp1Gs1Gr1Gu1Gt1H11H01H31H21D71H61H51H81H71Ha1H91xl1Nl1O61Hf1He1Hh1Hg1O71Hk1Hj1O91Oa1Ho1Hn2Kc1Oc1Oe1Hu1Ht1Oj1Om1L61Os1Or1I61I51Nf1wIR61P31P61Mh1P91Ie1Id1Ig1If1Ii1Ih1Pk1Il1Ik1Pn3Iq1Ip1Ps1It1Is1Pu1Q01J21J11J41J31Q71J71J63Jb1Ja2L75Jj1Jk1Ji1Jm1Jn1Jl1Jp1Jq1Jo1Js1Jr1Ju1Jt1K11K01K31K21K51K41K71K61K91K81Kb1Ka1Hq1Ke1Kd1Kg1Kf1Ki1Kh1Kk1Kj1Km1Kl1Ko1Kn1Kq1Kp1Ks1Kr1Ku1Kt2L21L31L11L51L41I21Jd1L91L81Lb1La1Ld1Lc1Lf1Le1Lh1Lg1Lj1Li1Ll1Lk1Ln1Lm1Lp1Lo1Lr1Lq1Lt1Ls1M01Lu1M21M11M41M31M61M51M81M71Ma1M91Mc1Mb1Me1Md1Mg1Mf1Ib2Mk1Mj1Mm1Ml1Mo1Mn1Mq1Mp1Ms1Mr1Mu1Mt1N11N01N31N21N51N47GUj1Ne1Nd1I71GUk1GVd1GVe1Nk1Nj1Hc1Pt1Q11Np1No1Nr1Nq1Nt1Ns1O01Nu1O21O11GUt1GUr1GUu1Hd1Hi2Hl1Hm2Hr2Hs1wIPj4I01wIPk2I11wIQk1wIOk1wIPi2I41I31wIPm1GUg1wIPl3I92GUs1Ia3Ic8GUi3Ij2wIQe1Im4wIPp1Ir1Nm1Iu1J01Nn6J5bwIPq1wIPoAcYmwcXd1Xc1Xf1Xe3Xj1Xi4wwt1wwu1wx02wwj7Za2Zb1Zc1Zd2wvb2wvc1wvd2Zf1Zg1Zh1Zi1Zj1Zk1Zl1Zm1Zn1Zo1Zp1Zq1Zr1Zs1Zt1Zu1wv02wv11wv31wv41wv51wv61wv71wv81wv91wva1Y31Y51Y61Y72Ye1wvf1Yg1Yh1wwl1Yj1Yk1wvg1DJ41wwg1Yo1Aq1Yq1Yr1Ys1wvl1wwh1wv21Z11Z21Z31wvk1Z51Z61DUn1Z81Z91Y91Yb1Yc1wvm1Yf1wwk4Z41Yt1wve1wvo1wvn1wvq1wvp1wvs1wvr1wvu1wvt1ww11ww01ww31ww21ww51ww41ww71ww61ww91ww81wwb1wwa1wwd1wwc1wwf1wwe1Yn1Yu1wwp1Xr1Yl1Yi2wwo1wwn1wwi1wwr1wwq2Xn1Xo1Xp1wzj1wzk1wzl1wzm1wzn1wzo1wzp1wzq1wzr1wzs1wzt1wzu1wA01wA11wA21wA31wyi1wyj1wyk1wyl1wym1wyn1wyo1wyp1wyq1wyr1wys1wyt1wyu1wz01wz11wz21wz31wz41wz51wz61wz71wz81wz91wza1wzb1wzc1wzd1wze1wzf1wzg1wzh1wzi1wxh1wxi1CNb1wxk1CNc1wxm1wxn1wxo1wxp1wxq1wxr1wxs1wxt1wxu1CNd1wy11wy21CNe1CNf1wy51wy61wy71wy81wy91wya1wyb1CNh1wyd1wye1wyf1wyg1wyh1wx11wx21wx31wx41wx51wx61wx71wx81wx91wxa1wxb1wxc1wxd1wxe1wxf1wxg1wA51wA41wA71CNi1wA91wA81wAb1wAa1wAd1wAc1wAf1wAe1wAh1wAg1wAj1wAi1wAl1wAk1wAn1wAm1wAp1wAo1wAr1wAq1wAt1wAs1wB01wAu1wB21wB11wB41wB31wB61wB59wBg1wBf1wBi1wBh1wBk1wBj1wBm1wBl1wBo1wBn1wBq1wBp1wBs1wBr1wBu1wBt1wC11wC01wC31wC21wC51wC41wC71wC61wC91wC81wCb1wCa1wCd1wCc1wCf1wCe1wCh1wCg1wCj1wCi1wCl1wCk1wCn1wCm1wCp1wCo1wCr1wCq1wCt1wCs1wD01wCu1wD21wD11wD41wD31wD61wD51wDm1wD91wD81wDb1wDa1wDd1wDc1wDf1wDe1wDh1wDg1wDj1wDi1wDl1wDk1wD71wDo1wDn1wDq1wDp1wDs1wDr1wDu1wDt1wE11wE01wE31wE21wE51wE41wE71wE61wE91wE81wEb1wEa1wEd1wEc1wEf1wEe1wEh1wEg1wEj1wEi1wEl1wEk1wEn1wEm1wEp1wEo1wEr1wEq1wEt1wEs1wF01wEu1wF21wF11wF41wF31wF61wF51wF81wF71wFa1wF91wFc1wFb1wFe1wFd1wFg1wFf1wFi1wFh1wFk1wFj1wFm1wFl1wFo1wFn1wFq1wFp1wFs1wFr1wFu1wFt1wG11wG01wG31wG21wG51wG41wG71wG61wG91wG81wGb1wGa1wGd1wGc1wGf1wGe1wGh1wGg1wGj1wGi1wGl1wGk1wGn1wGm1wGp1wGo2wId1wIe1wIf1wIg1wIh1wIi1wIj1wIk1wIl1wIm1wIn1wIo1wIp1wIq1wIr1wIs1wIt1wIu1wJ01wJ11wJ21wJ31wJ41wJ51wJ61wJ71wJ81wJ91wJa1wJb1wJc1wJd1wJe1wJf1wJg1wJh1wJi1wJjbwGr1wGs1wGt1wGu1wH01wH11wH21wH31wH41wH51wH61wH71wH81wH91wHa1wHb1wHc1wHd1wHe1wHf1wHg1wHh1wHi1wHj1wHk1wHl1wHm1wHn1wHo1wHp1wHq1wHr1wHs1wHt1wHu1wI01wI11wI2xYlGZj1GZk1GZl1GZm1GZn1GZo1GZp1GZq1GZr1GZs1GZt1GZu1Hv01Hv11Hv21Hv31Hv41Hv51Hv61Hv71Hv81Hv91Hva1Hvb1Hvc1Hvd1Hve1Hvf1Hvg1Hvh1Hvi1Hvj1Hvk1Hvl1Hvm1Hvn1Hvo1Hvp2Hvr6Hw23CNr1CNs1CNt1CNu1CO01CO11CO21CO31CO41CO51CO61CO71CO81CO91COa1COb1COc1COd1COe1COf1COg1COh1COi1COj1COk1COl1COm1COn1COo1COp1COq1COr1COs1COt1COu1CP01CP11CP21CP31CP41CP51CP61CP73CPa1CPb1CPcQmwJPn1wJPo1wJPp1wJPq1wJPr1wJPs1wJPt1wJPu1wJQ01wJQ11wJQ21wJQ31wJQ41wJQ51wJQ61wJQ71wJQ81wJQ91wJQa1wJQb1wJQc1wJQd1wJQe1wJQf1wJQg1wJQh1wJQi1wJQj1wJQk1wJQl1wJQm1wJQn1wJQo1wJQp1wJQq1wJQr1wJQs1wJQt1wJQu1wJR01wJR11wJR21wJR31wJR41wJR51wJR61wJR71wJR81wJR91wJRa1wJRb1wJRc1wJRd1wJRe1wJRf1wJRg1wJRh1wJRi1wJRj1wJRk1wJRl1wJRm1wJRn1wJRo1wJRp1wJRq1wJRr1wJRs1wJRt1wJRu1wJS01wJS11wJS21wJS31wJS41wJS51wJS61wJS71wJS81wJS91AEs1AEt1AEu1AF01AF11AF23AEk1AEl1AEm1AEn1AEo1AEpxD9wxj1wxl1wy01wy31CNg1wy41wyc1wA61wIE71CNl1CNk6zJq1zJr1zJs1zJt1zJu1zK01zK11zK21zK31zK41zK51zK61zK71zK81zK91zKa1zKb1zKc1zKd1zKe1zKf1zKg1zKh1zKi1zKj1zKk1zKl1zKm1zKn1zKo1zKp1zKq1zKr1zKs1zKt1zKu1zL01zL11zL21zL31zL41zL51zL63zL91zLa1zLbB0wIO44GUhhwIQfylCZo1CZn1CZq1CZp1CZs1CZr1CZu1CZt1Dv11Dv01Dv31Dv21Dv51Dv41Dv71Dv61Dv91Dv81Dvb1Dva1Dvd1Dvc1Dvf1Dve1Dvh1Dvg1Dvj1Dvi1Dvl1Dvk1Dvn1Dvm1Dvp1Dvo1Dvr1Dvq1Dvt1Dvs1Dw01Dvu1Dw21Dw11Dw41Dw31Dw61Dw51Dw81Dw71Dwa1Dw91Dwc1Dwb1Dwe1Dwd1Dwg1Dwf1Dwi1Dwh1Dwk1Dwj1Dwm1Dwl1Dwo1Dwn1Dwq1Dwp1Dws1Dwr1Dwu1Dwt1Dx11Dx01Dx31Dx21Dx51Dx41Dx71Dx61Dx91Dx81Dxb1Dxa1Dxd1Dxc1Dxf1Dxe1Dxh1Dxg1Dxj1Dxi1Dxl1Dxk1Dxn1Dxm1Dxp1Dxo1Dxr1Dzn1Dxt1Dxs1Dy01Dxu1Dy21Dy11Dy41Dy31Dy61Dy51Dy81Dy71Dya1Dy91Dyc1Dyb1Dye1Dyd1Dyg1Dyf1Dyi1Dyh1Dyk1Dyj1Dym1Dyl1Dyo1Dyn1Dyq1Dyp1Dys1Dyr1Dyu1Dyt1Dz11Dz01Dz31Dz21Dz51Dz41Dz71Dz61Dz91Dz81Dzb1Dza1Dzd1Dzc1Dzf1Dze1Dzh1Dzg6Dxq3C62Dzt1Dzs1DA01Dzu1DA21DA11DA41DA31DA61DA51DA81DA71DAa1DA91DAc1DAb1DAe1DAd1DAg1DAf1DAi1DAh1DAk1DAj1DAm1DAl1DAo1DAn1DAq1DAp1DAs1DAr1DAu1DAt1DB11DB01DB31DB21DB51DB41DB71DB61DB91DB81DBb1DBa1DBd1DBc1DBf1DBe1DBh1DBg1DBj1DBi1DBl1DBk1DBn1DBm1DBp1DBo1DBr1DBq1DBt1DBs1DC01DBu1DC21DC11DC41DC31DC61DC51DC81DC71DCa1DC91DCc1DCb1DCe1DCd1DCg1DCf1DCi1DCh1DCk1DCj1DCm1DCl1DCo1DCn1DCq1DCp1DCs1DCr1DCu1DCt1DD81DD91DDa1DDb1DDc1DDd1DDe1DDf1DD01DD11DD21DD31DD41DD51DD61DD71DDo1DDp1DDq1DDr1DDs1DDt3DDg1DDh1DDi1DDj1DDk1DDl3DE91DEa1DEb1DEc1DEd1DEe1DEf1DEg1DE11DE21DE31DE41DE51DE61DE71DE81DEp1DEq1DEr1DEs1DEt1DEu1DF01DF11DEh1DEi1DEj1DEk1DEl1DEm1DEn1DEo1DFa1DFb1DFc1DFd1DFe1DFf3DF21DF31DF41DF51DF61DF74DFr2DFt2DG02DG22DFj2DFl2DFn2DFp1DGb1DGc1DGd1DGe1DGf1DGg1DGh1DGi1DG31DG41DG51DG61DG71DG81DG91DGa1DJ01DJ11DJe1DJf1DJg1DJh1DK11DK21DL01DL11DKh1DKi1DL21DL33DHc1DHd1DHe1DHf1DHg1DHh1DHi1DHj1DH41DH51DH61DH71DH81DH91DHa1DHb1DHs1DHt1DHu1DI01DI11DI21DI31DI41DHk1DHl1DHm1DHn1DHo1DHp1DHq1DHr1DId1DIe1DIf1DIg1DIh1DIi1DIj1DIk1DI51DI61DI71DI81DI91DIa1DIb1DIc1DIt1DIu2DJ25DIl1DIm1DGj1DGk1DIo2W05DJi5DGl1DGm1DGn1DGo1DJ94DJu1DK07DJm1DJn1DGp1DGq5DKf1DKg4DKj3DK71DK81DGt1DGu1DKc7DL45DGr1DGs1DH01DH11DKqEjZ74xd1Bb7DW1sDV4iDX41DX51DX61DX71DX81DX91DXa1DXb1DXc1DXd1DXe1DXf1DXg1DXh1DXi1DXj1DWj1DWk1DWl1DWm1DWn1DWo1DWp1DWq1DWr1DWs1DWt1DWu1DX01DX11DX21DX34DXo1DXnVcEU01EU11EU21EU31EU41EU51EU61EU71EU81EU91EUa1EUb1EUc1EUd1EUe1EUf1EUg1EUh1EUi1EUj1EUk1EUl1EUm1EUn1EUo1EUp1ET51ET61ET71ET81ET91ETa1ETb1ETc1ETd1ETe1ETf1ETg1ETh1ETi1ETj1ETk1ETl1ETm1ETn1ETo1ETp1ETq1ETr1ETs1ETt1ETuwWhGSs1GSt1GSu1GT01GT11GT21GT31GT41GT51GT61GT71GT81GT91GTa1GTb1GTc1GTd1GTe1GTf1GTg1GTh1GTi1GTj1GTk1GTl1GTm1GTn1GTo1GTp1GTq1GTr1GTs1GTt1GTu1GU01GU11GU21GU31GU41GU51GU61GU71GU81GU91GUa1GUb1GUc1GUd1GRb1GRc1GRd1GRe1GRf1GRg1GRh1GRi1GRj1GRk1GRl1GRm1GRn1GRo1GRp1GRq1GRr1GRs1GRt1GRu1GS01GS11GS21GS31GS41GS51GS61GS71GS81GS91GSa1GSb1GSc1GSd1GSe1GSf1GSg1GSh1GSi1GSj1GSk1GSl1GSm1GSn1GSo1GSp1GSq1GSr1GUf1GUe1Ou1CVg1Ph1Nc1Ng1GUm1GUl1GUo1GUn1GUq1GUp1O41P51O31O52GV21GV12GV51GV48Nh1Ni1GVg1GVf1GVi1GVh1GVk1GVj1GVm1GVl1GVo1GVn1GVq1GVp1GVs1GVr1GVu1GVt1GW11GW01GW31GW21GW51GW41GW71GW61GW91GW81GWb1GWa1GWd1GWc1GWf1GWe1GWh1GWg1GWj1GWi1GWl1GWk1GWn1GWm1GWp1GWo1GWr1GWq1GWt1GWs1GX01GWu1GX21GX11GX41GX31GX61GX51GX81GX71GXa1GX91GXc1GXb1GXe1GXd1GXg1GXf1GXi1GXh1GXk1GXj1GXm1GXl1GXo1GXn1GXq1GXp1GXs1GXr1GXu1GXt1GY11GY01GY31GY21GY51GY41GY71GY61GY91GY81GYb1GYa1GYd1GYc1GYf1GYe1GYh1GYg1GYj1GYi1GYl1GYk8GYu1GYt1GZ11GZ04GZ61GZ5dzI91zIa1zIb1zIc1zId1zIe1zIf1zIg1zIh1zIi1zIj1zIk1zIl1zIm1zIn1zIo1zIp1zIq1zIr1zIs1zIt1zIu1zJ01zJ11zJ21zJ31zJ41zJ51zJ61zJ71zJ81zJ91zJa1zJb1zJc1zJd1zJe1zJf2zJh6zJnwwCqwIDt1wIDs1wIE01wIDu1wIE21wIE11wIE41wIE31wIE61wIE51wIE81CNj1wIEa1wIE91wIEc1wIEb1wIEe1wIEd1wIEg1wIEf1wIEi1wIEh1wIEk1wIEj1wIEm1wIEl1wIEo1wIEn1wIEq1wIEp1wIEs1wIEr1wIEu1wIEt1wIF11wIF01wIF31wIF21wIF51wIF41wIF71wIF61wIF91wIF81wIFb1wIFajwIG01wIFu1wIG21wIG11wIG41wIG31wIG61wIG51wIG81wIG71wIGa1wIG91wIGc1wIGb1wIGe1wIGd1wIGg1wIGf1wIGi1wIGh1wIGk1wIGj1wIGm1wIGl1wIGo1wIGn1wIGq1wIGpzbwIL71wIL61wIL91wIL81wILb1wILa1wILd1wILc1wILf1wILe1wILh1wILg1wILj1wILi3wILn1wILm1wILp1wILo1wILr1wILq1wILt1wILs1wIM01wILu1wIM21wIM11wIM41wIM31wIM61wIM51wIM81wIM71wIMa1wIM91wIMc1wIMb1wIMe1wIMd1wIMg1wIMf1wIMi1wIMh1wIMk1wIMj1wIMm1wIMl1wIMo1wIMn1wIMq1wIMp1wIMs1wIMr1wIMu1wIMt1wIN11wIN01wIN31wIN21wIN51wIN41wIN71wIN61wIN91wIN81wINb1wINa1wINd1wINc1wINf1wINe1wINh1wINg1wINj1wINi1wINl1wINkawIO11wIO01wIO31wIO21CVc1wIO61wIO51wIO81wIO71wIOa1wIO91wIOc1wIOb1wIOe1wIOd4wIOj1wIOi1Oo3wIOo1wIOn1wIOq1wIOp1wIQd2wIOu1wIOt1wIP11wIP01wIP31wIP21wIP51wIP41wIP71wIP61wIP91wIP81wIPb1wIPa1wIPd1wIPc1wIPf1wIPe1wIPh1wIPg1Op1Of1Ok1P01Ot2Qj1Pr1Qi1wJOp1wIPt1wIPs1wIQ01wIPu1wIQ21wIQ11wIQ41wIQ31wIQ61wIQ51wIQ81wIQ71wIQa1wIQ91wIQc1wIQb1wIOr1Pm1CW21wIQh1wIQg1wIQj1wIQi1On1wIQm1wIQl3wIQq1wIQp5wIR11wIR01wIR31wIR21wIR51wIR41I8pwIS11wIS0WowIPrtAC21AC31AC41AC51AC61AC71AC81AC91ACa1ACb1ACc1ACd1ACe1ACf1ACg1ACh1ACi1ACj1ACk1ACl1ACm1ACn1ACo1ACp1ACq1ACr1ACs1ACt1ACu1AD01AD11AD21AD31AD41AD51AD61AD71AD81AD91ADa1ADb1ADc1ADd1ADe1ADf1ADg1ADh1ADi1ADj1ADk1ADl1ADm1ADn1ADo1ADp1ADq1ADr1ADs1ADt1ADu1AE01AE11AE21AE31AE41AE51AE61AE71AE81AE91AEa1AEb1AEc1AEd1AEe1AEf1AEg1AEh1AEi1AEjRBixAZs1xAZt1xAZu1xBv01xBv11xBv21xBv31xBv41xBv51xBv61xBv71xBv81xBv91xBva1xBvb1xBvc1xBvd1xBve1xBvf1xBvg1xBvh1xBvi1xBvj1xBvk1xBvl1xBvm7xAYr1xAYs1xAYt1xAYu1xAZ01xAZ11xAZ21xAZ31xAZ41xAZ51xAZ61xAZ71xAZ81xAZ91xAZa1xAZb1xAZc1xAZd1xAZe1xAZf1xAZg1xAZh1xAZi1xAZj1xAZk1xAZlwCcxCEc1xCEd1xCEe1xCEf1xCEg1xCEh1xCEi1xCEj1xCEk1xCEl1xCEm1xCEn1xCEo1xCEp1xCEq1xCEr1xCEs1xCEt1xCEu1xCF01xCF11xCF21xCF31xCF41xCF51xCF61xCF71xCF81xCF91xCFa1xCFb1xCFc1xCFd1xCFe1xCFf1xCFg1xCFh1xCFi1xCFj1xCFk1xCD31xCD41xCD51xCD61xCD71xCD81xCD91xCDa1xCDb1xCDc1xCDd1xCDe1xCDf1xCDg1xCDh1xCDi1xCDj1xCDk1xCDl1xCDm1xCDn1xCDo1xCDp1xCDq1xCDr1xCDs1xCDt1xCDu1xCE01xCE11xCE21xCE31xCE41xCE51xCE61xCE71xCE81xCE91xCEa1xCEby4xCK21xCK31xCK41xCK51xCK61xCK71xCK81xCK91xCKa1xCKb1xCKc1xCKd1xCKe1xCKf1xCKg1xCKh1xCKi1xCKj1xCKk1xCKl1xCKm1xCKn1xCKo1xCKp1xCKq1xCKr1xCKs1xCKt1xCKu1xCL01xCL11xCL21xCL31xCL41xCL51xCL65xCIo1xCIp1xCIq1xCIr1xCIs1xCIt1xCIu1xCJ01xCJ11xCJ21xCJ31xCJ41xCJ51xCJ61xCJ71xCJ81xCJ91xCJa1xCJb1xCJc1xCJd1xCJe1xCJf1xCJg1xCJh1xCJi1xCJj1xCJk1xCJl1xCJm1xCJn1xCJo1xCJp1xCJq1xCJr1xCJsyoxCQ71xCQ81xCQ91xCQa1xCQb1xCQc1xCQd1xCQe1xCQf1xCQg1xCQh2xCQj1xCQk1xCQl1xCQm1xCQn1xCQo1xCQp1xCQq1xCQr1xCQs1xCQt1xCQu1xCR01xCR11xCR22xCR41xCR51xCR61xCR71xCR81xCR91xCRa2xCRc1xCRd2xCOu1xCP01xCP11xCP21xCP31xCP41xCP51xCP61xCP71xCP81xCP92xCPb1xCPc1xCPd1xCPe1xCPf1xCPg1xCPh1xCPi1xCPj1xCPk1xCPl1xCPm1xCPn1xCPo1xCPp2xCPr1xCPs1xCPt1xCPu1xCQ01xCQ11xCQ22xCQ41xCQ5wTrxENb1xENc1xENd1xENe1xENf1xENg1xENh1xENi1xENj1xENk1xENl1xENm1xENn1xENo1xENp1xENq1xENr1xENs1xENt1xENu1xEO01xEO11xEO21xEO31xEO41xEO51xEO61xEO71xEO81xEO91xEOa1xEOb1xEOc1xEOd1xEOe1xEOf1xEOg1xEOh1xEOi1xEOj1xEOk1xEOl1xEOm1xEOn1xEOo1xEOp1xEOq1xEOr1xEOs1xEOt1xEOuexEL91xELa1xELb1xELc1xELd1xELe1xELf1xELg1xELh1xELi1xELj1xELk1xELl1xELm1xELn1xELo1xELp1xELq1xELr1xELs1xELt1xELu1xEM01xEM11xEM21xEM31xEM41xEM51xEM61xEM71xEM81xEM91xEMa1xEMb1xEMc1xEMd1xEMe1xEMf1xEMg1xEMh1xEMi1xEMj1xEMk1xEMl1xEMm1xEMn1xEMo1xEMp1xEMq1xEMr1xEMsy1xET11xET21xET31xET41xET51xET61xET71xET81xET91xETa1xETb1xETc1xETd1xETe1xETf1xETg1xETh1xETi1xETj1xETk1xETl1xETmbxES01xES11xES21xES31xES41xES51xES61xES71xES81xES91xESa1xESb1xESc1xESd1xESe1xESf1xESg1xESh1xESi1xESj1xESk1xESlxYmxHTe1xHTf1xHTg1xHTh1xHTi1xHTj1xHTk1xHTl1xHTm1xHTn1xHTo1xHTp1xHTq1xHTr1xHTs1xHTt1xHTu1xHU01xHU11xHU21xHU31xHU41xHU51xHU61xHU71xHU81xHU91xHUa1xHUb1xHUc1xHUd1xHUe1xHSd1xHSe1xHSf1xHSg1xHSh1xHSi1xHSj1xHSk1xHSl1xHSm1xHSn1xHSo1xHSp1xHSq1xHSr1xHSs1xHSt1xHSu1xHT01xHT11xHT21xHT31xHT41xHT51xHT61xHT71xHT81xHT91xHTa1xHTb1xHTc1xHTdRS2yzNh1yzNi1yzNj1yzNk1yzNl1yzNm1yzNn1yzNo1yzNp1yzNq1yzNr1yzNs1yzNt1yzNu1yzO01yzO11yzO21yzO31yzO41yzO51yzO61yzO71yzO81yzO91yzOa1yzOb1yzOc1yzOd1yzOe1yzOf1yzOg1yzOh1yzMg1yzMh1yzMi1yzMj1yzMk1yzMl1yzMm1yzMn1yzMo1yzMp1yzMq1yzMr1yzMs1yzMt1yzMu1yzN01yzN11yzN21yzN31yzN41yzN51yzN61yzN71yzN81yzN91yzNa1yzNb1yzNc1yzNd1yzNe1yzNf1yzNgwwOkzBE91zBEa1zBEb1zBEc1zBEd1zBEe1zBEf1zBEg1zBEh1zBEi1zBEj1zBEk1zBEl1zBEm1zBEn1zBEo1zBEp1zBEq1zBEr1zBEs1zBEt1zBEu1zBF01zBF11zBF21zBF31zBF41zBF51zBF61zBF71zBF81zBF91zBFa1zBFb1zBD61zBD71zBD81zBD91zBDa1zBDb1zBDc1zBDd1zBDe1zBDf1zBDg1zBDh1zBDi1zBDj1zBDk1zBDl1zBDm1zBDn1zBDo1zBDp1zBDq1zBDr1zBDs1zBDt1zBDu1zBE01zBE11zBE21zBE31zBE41zBE51zBE61zBE71zBE8"

/-- The orbit pairs written as numbers, the code points as gaps counted from `previous`. -/
def orbitPairsOf : List Nat → Nat → List (UInt32 × UInt32)
  | gap :: next :: rest, previous =>
    let c := previous + gap
    (c.toUInt32, next.toUInt32) :: orbitPairsOf rest c
  | _, _ => []

/-- The orbit pairs, sorted by code point. -/
def caseOrbitTable : Array (UInt32 × UInt32) :=
  (orbitPairsOf (decodeNumbers caseOrbitText.toList 0) 0).toArray

/-- The next member of the orbit of `c` in a table of orbit pairs, looked up between the pairs
`lo` and `hi - 1`. -/
def nextInOrbitBetween (table : Array (UInt32 × UInt32)) (c : UInt32) (lo hi : Nat) :
    Option UInt32 :=
  if lo < hi then
    let mid := (lo + hi) / 2
    match table[mid]? with
    | none => none
    | some (k, next) =>
      if c < k then nextInOrbitBetween table c lo mid
      else if k < c then nextInOrbitBetween table c (mid + 1) hi
      else some next
  else none
termination_by hi - lo

/-- The next member of the orbit of the code point `c`, if `c` has other members. -/
def nextInOrbit (c : UInt32) : Option UInt32 :=
  nextInOrbitBetween caseOrbitTable c 0 caseOrbitTable.size

/-- The members of the orbit of `start` met going round from `c` until `start`, at most `fuel`
of them. -/
def orbitFrom (start : UInt32) : Nat → UInt32 → List Char
  | 0, _ => []
  | fuel + 1, c =>
    match nextInOrbit c with
    | none => []
    | some next =>
      if next = start then [] else Char.ofNat next.toNat :: orbitFrom start fuel next

/-- The characters equal to `c` up to simple case folding, `c` first. -/
def caseOrbit (c : Char) : List Char :=
  c :: orbitFrom c.val 4 c.val

end ContentSync.Text
